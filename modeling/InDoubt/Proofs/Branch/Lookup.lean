import InDoubt.Branch.Directory
import InDoubt.Proofs.Branch.Canonical
import InDoubt.Proofs.Outcome

namespace InDoubt

namespace BranchId

theorem text_eq_flat_iff {id : BranchId} (canonical : id.form.Canonical) :
    id.text = .ok id.flat ↔ id.form.WritesDigits := by
  have isText : id.flat.isText = true := Form.isText_flat canonical
  rw [← Form.encode_eq_flat_iff canonical, text, Outcome.bind_eq_ok_iff]
  constructor
  · intro steps
    obtain ⟨written, encoded, kept⟩ := steps
    split at kept
    · cases kept
      exact encoded
    · cases kept
  · intro encoded
    exact ⟨id.flat, encoded, if_pos isText⟩

theorem beq_iff_flat_eq {first second : BranchId} (firstCanonical : first.form.Canonical)
    (secondCanonical : second.form.Canonical) :
    (first == second) = true ↔ first.flat = second.flat :=
  Form.same_iff_flat_eq firstCanonical secondCanonical

theorem hash_of_canonical {id : BranchId} (canonical : id.form.Canonical) :
    ∃ code, id.hash = .ok code := by
  obtain ⟨form, prepared, owner, database⟩ := id
  cases form with
  | structured triple => exact ⟨Value.hashTriple triple, rfl⟩
  | verbatim raw =>
      cases raw with
      | text given => exact ⟨Hashable.hash given, rfl⟩
      | brokenText codes broken => exact ⟨Hashable.hash codes, rfl⟩
      | _ => simp [Form.Canonical, Value.isText, Value.codes?] at canonical

theorem hash_eq_of_beq {first second : BranchId} (firstCanonical : first.form.Canonical)
    (secondCanonical : second.form.Canonical) (equal : (first == second) = true) :
    first.hash = second.hash := by
  obtain ⟨form, prepared, owner, database⟩ := first
  obtain ⟨form', prepared', owner', database'⟩ := second
  cases form with
  | structured triple =>
      cases form' with
      | structured triple' =>
          have plainSame : triple.plain = triple'.plain := Triple.same_iff_plain_eq.mp equal
          have hashSame : Value.hashTriple triple.plain = Value.hashTriple triple'.plain :=
            congrArg Value.hashTriple plainSame
          exact congrArg Except.ok hashSame
      | verbatim raw' => cases equal
  | verbatim raw =>
      cases form' with
      | structured triple' => cases equal
      | verbatim raw' =>
          have rawSame : raw = raw' :=
            (Value.same_iff_of_isText firstCanonical.1 secondCanonical.1).mp equal
          rw [hash, hash, rawSame]

end BranchId

namespace Directory

variable {α : Type}

def texts (entries : List (BranchId × α)) : List Value := entries.map fun entry => entry.1.flat

def Canonical (entries : List (BranchId × α)) : Prop :=
  ∀ entry ∈ entries, entry.1.form.Canonical

theorem insert_of_canonical {directory : Directory α} {id : BranchId} {value : α}
    (canonical : id.form.Canonical) :
    directory.insert id value = .ok (directory.set id value) := by
  obtain ⟨code, hashed⟩ := BranchId.hash_of_canonical canonical
  rw [insert, Outcome.bind_eq_ok_iff]
  exact ⟨code, hashed, rfl⟩

theorem lookup_of_canonical {directory : Directory α} {id : BranchId}
    (canonical : id.form.Canonical) : directory.lookup id = .ok (directory.find? id) := by
  obtain ⟨code, hashed⟩ := BranchId.hash_of_canonical canonical
  rw [lookup, Outcome.bind_eq_ok_iff]
  exact ⟨code, hashed, rfl⟩

theorem canonical_set {directory : Directory α} {id : BranchId} {value : α}
    (canonical : Canonical directory) (idCanonical : id.form.Canonical) :
    Canonical (directory.set id value) := by
  induction directory with
  | nil =>
      intro entry member
      cases List.mem_singleton.mp member
      exact idCanonical
  | cons head rest restCanonical =>
      obtain ⟨key, old⟩ := head
      obtain ⟨keyCanonical, canonical⟩ := List.forall_mem_cons.mp canonical
      rw [set]
      split
      · exact List.forall_mem_cons.mpr ⟨keyCanonical, canonical⟩
      · exact List.forall_mem_cons.mpr ⟨keyCanonical, restCanonical canonical⟩

theorem texts_set {directory : Directory α} {id : BranchId} {value : α}
    (canonical : Canonical directory) (idCanonical : id.form.Canonical) :
    (id.flat ∈ texts directory ∧ texts (directory.set id value) = texts directory) ∨
      (id.flat ∉ texts directory ∧
        texts (directory.set id value) = texts directory ++ [id.flat]) := by
  induction directory with
  | nil => exact .inr ⟨List.not_mem_nil, rfl⟩
  | cons head rest restTexts =>
      obtain ⟨key, old⟩ := head
      obtain ⟨keyCanonical, canonical⟩ := List.forall_mem_cons.mp canonical
      have equal := BranchId.beq_iff_flat_eq keyCanonical idCanonical
      rw [set]
      split
      · next found =>
        refine .inl ⟨?_, rfl⟩
        rw [← equal.mp found]
        exact List.mem_cons_self
      · next different =>
        have other : id.flat ≠ key.flat := fun same => different (equal.mpr same.symm)
        rcases restTexts canonical with ⟨member, unchanged⟩ | ⟨absent, added⟩
        · exact .inl ⟨List.mem_cons_of_mem _ member, congrArg (key.flat :: ·) unchanged⟩
        · refine .inr ⟨?_, congrArg (key.flat :: ·) added⟩
          exact List.not_mem_cons_of_ne_of_not_mem other absent

theorem nodup_texts_set {directory : Directory α} {id : BranchId} {value : α}
    (canonical : Canonical directory) (idCanonical : id.form.Canonical)
    (distinct : (texts directory).Nodup) : (texts (directory.set id value)).Nodup := by
  rcases texts_set canonical idCanonical with ⟨_, unchanged⟩ | ⟨absent, added⟩
  · rw [unchanged]
    exact distinct
  · rw [added, List.nodup_append]
    refine ⟨distinct, List.pairwise_singleton _ _, ?_⟩
    intro text member text' last same
    cases List.mem_singleton.mp last
    subst same
    exact absent member

theorem mem_texts_set {directory : Directory α} {id : BranchId} {value : α}
    (canonical : Canonical directory) (idCanonical : id.form.Canonical)
    {text : Value} :
    text ∈ texts (directory.set id value) ↔ text ∈ texts directory ∨ text = id.flat := by
  rcases texts_set canonical idCanonical with ⟨present, unchanged⟩ | ⟨_, added⟩
  · rw [unchanged]
    constructor
    · exact .inl
    · intro either
      rcases either with member | rfl
      · exact member
      · exact present
  · rw [added, List.mem_append, List.mem_singleton]

theorem find?_cons (key : BranchId) (value : α) (rest : Directory α) (id : BranchId) :
    find? ((key, value) :: rest) id = if key == id then some value else find? rest id := by
  cases same : key == id with
  | true => simp [find?, same]
  | false => simp [find?, same]

theorem find?_set {directory : Directory α} {id other : BranchId} {value : α}
    (canonical : Canonical directory) (idCanonical : id.form.Canonical)
    (otherCanonical : other.form.Canonical) :
    (directory.set id value).find? other =
      if id == other then some value else directory.find? other := by
  induction directory with
  | nil => exact find?_cons id value [] other
  | cons head rest restFind =>
      obtain ⟨key, old⟩ := head
      obtain ⟨keyCanonical, canonical⟩ := List.forall_mem_cons.mp canonical
      have keyId := BranchId.beq_iff_flat_eq keyCanonical idCanonical
      have keyOther := BranchId.beq_iff_flat_eq keyCanonical otherCanonical
      have idOther := BranchId.beq_iff_flat_eq idCanonical otherCanonical
      rw [set]
      split
      · next found =>
        have same : (key == other) = (id == other) := by
          rw [Bool.eq_iff_iff, keyOther, idOther, keyId.mp found]
        rw [find?_cons, find?_cons, same]
        split
        · rfl
        · rfl
      · next different =>
        rw [find?_cons, find?_cons, restFind canonical]
        by_cases keySame : (key == other) = true
        · have idDifferent : ¬(id == other) = true := by
            intro idSame
            apply different
            rw [keyId, keyOther.mp keySame, idOther.mp idSame]
          rw [if_pos keySame, if_neg idDifferent, if_pos keySame]
        · rw [if_neg keySame, if_neg keySame]

def latest? (entries : List (BranchId × α)) (id : BranchId) : Option α :=
  (entries.filter fun entry => entry.1 == id).getLast?.map Prod.snd

theorem latest?_cons (key : BranchId) (value : α) (rest : List (BranchId × α)) (id : BranchId) :
    latest? ((key, value) :: rest) id =
      (latest? rest id).or (if key == id then some value else none) := by
  unfold latest?
  rw [List.filter_cons]
  split
  · rw [List.getLast?_cons]
    cases (rest.filter fun entry => entry.1 == id).getLast? with
    | none => rfl
    | some entry => rfl
  · rw [Option.or_none]

/-- What inserting entries one after the other leads to, from any directory. -/
theorem foldlM_insert {entries : List (BranchId × α)} (entriesCanonical : Canonical entries)
    {directory : Directory α} (canonical : Canonical directory)
    (distinct : (texts directory).Nodup) :
    ∃ filled : Directory α,
      entries.foldlM (fun directory (id, value) => directory.insert id value) directory =
          .ok filled ∧
      (texts filled).Nodup ∧
      (∀ text, text ∈ texts filled ↔ text ∈ texts directory ∨ text ∈ texts entries) ∧
      ∀ id : BranchId, id.form.Canonical →
        filled.find? id = (latest? entries id).or (directory.find? id) := by
  induction entries generalizing directory with
  | nil => exact ⟨directory, rfl, distinct, by simp [texts], fun id _ => rfl⟩
  | cons entry rest restFilled =>
      obtain ⟨key, value⟩ := entry
      obtain ⟨keyCanonical, restCanonical⟩ := List.forall_mem_cons.mp entriesCanonical
      have nextCanonical : Canonical (directory.set key value) :=
        canonical_set canonical keyCanonical
      have nextDistinct : (texts (directory.set key value)).Nodup :=
        nodup_texts_set canonical keyCanonical distinct
      obtain ⟨filled, made, filledDistinct, filledTexts, filledFind⟩ :=
        restFilled restCanonical nextCanonical nextDistinct
      refine ⟨filled, ?_, filledDistinct, ?_, ?_⟩
      · rw [List.foldlM_cons, Outcome.bind_eq_ok_iff]
        exact ⟨directory.set key value, insert_of_canonical keyCanonical, made⟩
      · intro text
        rw [filledTexts, mem_texts_set canonical keyCanonical, or_assoc]
        exact or_congr_right List.mem_cons.symm
      · intro id idCanonical
        rw [filledFind id idCanonical, find?_set canonical keyCanonical idCanonical, latest?_cons,
          Option.or_assoc]
        split
        · rfl
        · rw [Option.none_or]

end Directory

end InDoubt
