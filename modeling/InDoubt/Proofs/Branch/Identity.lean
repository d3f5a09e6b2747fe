import InDoubt.Proofs.Branch.Lookup
import InDoubt.Proofs.Branch.Obtained

namespace InDoubt

/-- One entry for each flat text among the keys, and in it the latest value. -/
structure Directory.HoldsLatest {α : Type} (directory : Directory α)
    (entries : List (BranchId × α)) : Prop where
  distinct : (texts directory).Nodup
  complete : ∀ text, text ∈ texts directory ↔ text ∈ texts entries
  latest : ∀ id, Obtained id → directory.lookup id = .ok (latest? entries id)

theorem Directory.ofList_holdsLatest {α : Type} {entries : List (BranchId × α)}
    (keysObtained : ∀ entry ∈ entries, Obtained entry.1) :
    ∃ directory, ofList entries = .ok directory ∧ directory.HoldsLatest entries := by
  have canonical : Canonical entries := fun entry member => (keysObtained entry member).canonical
  have emptyCanonical : Canonical ([] : Directory α) := List.forall_mem_nil _
  obtain ⟨directory, made, distinct, texts, find⟩ :=
    foldlM_insert canonical emptyCanonical List.nodup_nil
  refine ⟨directory, made, distinct, ?_, ?_⟩
  · intro text
    rw [texts]
    exact or_iff_right List.not_mem_nil
  · intro id obtained
    rw [lookup_of_canonical obtained.canonical, find id obtained.canonical]
    exact congrArg Except.ok Option.or_none

/-- Two identifiers have texts, and are equal exactly if these are the same. -/
def BranchId.SameText (first second : BranchId) : Prop :=
  ∃ text text', first.text = .ok text ∧ second.text = .ok text' ∧
    ((first == second) = true ↔ text = text')

namespace Obtained

variable {first second : BranchId}

theorem beq_iff_flat_eq (firstObtained : Obtained first) (secondObtained : Obtained second) :
    (first == second) = true ↔ first.flat = second.flat :=
  BranchId.beq_iff_flat_eq firstObtained.canonical secondObtained.canonical

theorem equivalence :
    Equivalence fun first second : { id // Obtained id } =>
      (first.val == second.val) = true where
  refl := by
    intro ⟨id, obtained⟩
    apply (beq_iff_flat_eq obtained obtained).mpr
    rfl
  symm := by
    intro ⟨first, firstObtained⟩ ⟨second, secondObtained⟩ same
    rw [beq_iff_flat_eq firstObtained secondObtained] at same
    apply (beq_iff_flat_eq secondObtained firstObtained).mpr
    exact same.symm
  trans := by
    intro ⟨first, firstObtained⟩ ⟨second, secondObtained⟩ ⟨third, thirdObtained⟩ same same'
    rw [beq_iff_flat_eq firstObtained secondObtained] at same
    rw [beq_iff_flat_eq secondObtained thirdObtained] at same'
    apply (beq_iff_flat_eq firstObtained thirdObtained).mpr
    exact same.trans same'

theorem sameText_of_writesDigits (firstObtained : Obtained first) (secondObtained : Obtained second)
    (firstDigits : first.form.WritesDigits) (secondDigits : second.form.WritesDigits) :
    first.SameText second :=
  ⟨first.flat, second.flat, (BranchId.text_eq_flat_iff firstObtained.canonical).mpr firstDigits,
    (BranchId.text_eq_flat_iff secondObtained.canonical).mpr secondDigits,
    beq_iff_flat_eq firstObtained secondObtained⟩

theorem exists_plain (obtained : Obtained first) :
    ∃ plain, Obtained plain ∧ plain.form.WritesDigits ∧ (first == plain) = true := by
  obtain ⟨form, prepared, owner, database⟩ := first
  cases form with
  | structured triple =>
      have valid : triple.plain.Valid := obtained.canonical
      have accepted : BranchId.ofValues (Value.formatIdValue triple.plain.formatId)
          (.text triple.gtrid) (.text triple.bqual) =
            .ok (.ofForm (.structured triple.plain)) :=
        BranchId.ofValues_eq_ok_iff.mpr ⟨triple.plain, valid, rfl, rfl, rfl, rfl⟩
      exact ⟨_, .made accepted, rfl, Triple.same_iff_plain_eq.mpr rfl⟩
  | verbatim raw =>
      exact ⟨_, obtained, trivial, (beq_iff_flat_eq obtained obtained).mpr rfl⟩

theorem writesDigits_of_sameText (obtained : Obtained first)
    (alike : ∀ second, Obtained second → second.form.WritesDigits → first.SameText second) :
    first.form.WritesDigits := by
  obtain ⟨plain, plainObtained, digits, equal⟩ := obtained.exists_plain
  obtain ⟨text, text', written, written', same⟩ := alike plain plainObtained digits
  cases same.mp equal
  rw [(BranchId.text_eq_flat_iff plainObtained.canonical).mpr digits, Except.ok.injEq] at written'
  rw [← BranchId.text_eq_flat_iff obtained.canonical, written, ← written',
    (beq_iff_flat_eq obtained plainObtained).mp equal]

theorem sameText_iff_writesDigits {α : Type} {entries : List (BranchId × α)}
    (firstObtained : Obtained first) (secondObtained : Obtained second)
    (keysObtained : ∀ entry ∈ entries, Obtained entry.1) :
    ((∀ other, Obtained other → other.form.WritesDigits → first.SameText other) ↔
      first.form.WritesDigits) ∧
    (first.text = .ok first.flat ↔ first.form.WritesDigits) ∧
    (first.formatId.Usual ∨ first.isUnparsed = true → first.form.WritesDigits) ∧
    ((first == second) = true ↔ first.flat = second.flat) ∧
    (Equivalence fun first second : { id // Obtained id } =>
      (first.val == second.val) = true) ∧
    (∀ prepared owner database,
      (BranchId.mk first.form prepared owner database == second) = (first == second)) ∧
    (∃ code, first.hash = .ok code) ∧
    ((first == second) = true → first.hash = second.hash) ∧
    ∃ directory, Directory.ofList entries = .ok directory ∧ directory.HoldsLatest entries := by
  refine ⟨⟨writesDigits_of_sameText firstObtained, ?_⟩,
    BranchId.text_eq_flat_iff firstObtained.canonical, ?_,
    beq_iff_flat_eq firstObtained secondObtained, equivalence, ?_,
    BranchId.hash_of_canonical firstObtained.canonical,
    BranchId.hash_eq_of_beq firstObtained.canonical secondObtained.canonical,
    Directory.ofList_holdsLatest keysObtained⟩
  · intro digits other obtained otherDigits
    exact sameText_of_writesDigits firstObtained obtained digits otherDigits
  · intro either
    rcases either with usual | unparsed
    · exact BranchId.writesDigits_of_usual usual
    · exact BranchId.writesDigits_of_isUnparsed unparsed
  · intro prepared owner database
    rfl

theorem sameText_iff_writesDigits_attached :
    ∃ first second directory, Obtained first ∧ Obtained second ∧
      first.prepared = .list [] ∧
      second.formatId = .derived 1 (.ofMember "Format" "PGJDBC" 1) ∧
      first.SameText second ∧ (first == second) = true ∧ first.hash = second.hash ∧
      Directory.ofList [(first, "old"), (second, "new")] = .ok directory ∧
      directory.lookup first = .ok (some "new") := by
  let look : Look := .ofMember "Format" "PGJDBC" 1
  let first : BranchId := ⟨.structured ⟨⟨1, none⟩, "g", "b"⟩, .list [], .dict [], .null⟩
  let second : BranchId := .ofForm (.structured ⟨⟨1, some look⟩, "g", "b"⟩)
  have plainAccepted : BranchId.ofValues (.int 1) (.text "g") (.text "b") =
      .ok (.ofForm (.structured ⟨⟨1, none⟩, "g", "b"⟩)) := rfl
  have memberAccepted : BranchId.ofValues (.derived 1 look) (.text "g") (.text "b") =
      .ok second := rfl
  have firstObtained : Obtained first := (made plainAccepted).attached (.list []) (.dict []) .null
  have secondObtained : Obtained second := made memberAccepted
  have keysObtained : ∀ entry ∈ [(first, "old"), (second, "new")], Obtained entry.1 := by
    intro entry member
    rcases List.mem_cons.mp member with rfl | member
    · exact firstObtained
    · cases List.mem_singleton.mp member
      exact secondObtained
  have equal : (first == second) = true := by decide
  have newest : Directory.latest? [(first, "old"), (second, "new")] first = some "new" := rfl
  obtain ⟨alike, _, _, _, _, _, _, sameHash, directory, filled, holds⟩ :=
    sameText_iff_writesDigits firstObtained secondObtained keysObtained
  refine ⟨first, second, directory, firstObtained, secondObtained, rfl, rfl,
    alike.mpr rfl second secondObtained (FormatId.writesDigits_ofMember "Format" "PGJDBC" 1), equal,
    sameHash equal, filled, ?_⟩
  rw [holds.latest first firstObtained, newest]

theorem equal_without_same_text :
    ∃ first second, Obtained first ∧ Obtained second ∧ (first == second) = true ∧
      (∃ text, second.text = .ok text) ∧
      first.text = .error (.plain .wrongValue "Unknown format code 'd' for object of type 'str'") ∧
      ¬first.SameText second := by
  let look : Look := .ofNamed "Format" "PGJDBC" 7
  let first : BranchId := .ofForm (.structured ⟨⟨7, some look⟩, "g", "b"⟩)
  let second : BranchId := .ofForm (.structured ⟨⟨7, none⟩, "g", "b"⟩)
  have memberAccepted : BranchId.ofValues (.derived 7 look) (.text "g") (.text "b") =
      .ok first := rfl
  have plainAccepted : BranchId.ofValues (.int 7) (.text "g") (.text "b") = .ok second := rfl
  have secondText : second.text = .ok second.flat :=
    (BranchId.text_eq_flat_iff (made plainAccepted).canonical).mpr rfl
  refine ⟨first, second, made memberAccepted, made plainAccepted, by decide, ⟨_, secondText⟩, rfl,
    ?_⟩
  intro alike
  obtain ⟨text, text', written, _⟩ := alike
  cases written

end Obtained

end InDoubt
