import InDoubt.Settings.Environment

namespace InDoubt

namespace Value

theorem same_text_iff {name : String} {key : Value} :
    (Value.text name).same key = true ↔ key = .text name := by
  cases key with
  | text given =>
      rw [same, beq_iff_eq, Value.text.injEq]
      exact eq_comm
  | _ => simp [same, number?]

theorem same_text_right_iff {name : String} {key : Value} :
    key.same (.text name) = true ↔ key = .text name := by
  cases key with
  | text given => simp [same]
  | _ => simp [same, number?]

theorem same_text_congr {known key : Value} (same : known.same key = true) (name : String) :
    (Value.text name).same known = (Value.text name).same key := by
  rw [Bool.eq_iff_iff, same_text_iff, same_text_iff]
  constructor
  · intro named
    subst named
    exact same_text_iff.mp same
  · intro named
    subst named
    exact same_text_right_iff.mp same

theorem keys_setEntry (entries : List (Value × Value)) (key value : Value) :
    (setEntry entries key value).map Prod.fst = entries.map Prod.fst ∨
      (setEntry entries key value).map Prod.fst = entries.map Prod.fst ++ [key] ∧
        ∀ known ∈ entries.map Prod.fst, known.same key = false := by
  induction entries with
  | nil => exact .inr ⟨rfl, List.forall_mem_nil _⟩
  | cons entry rest restKeys =>
      obtain ⟨known, old⟩ := entry
      cases equal : known.same key with
      | true =>
          left
          simp [setEntry, equal]
      | false =>
          rcases restKeys with kept | ⟨grown, apart⟩
          · left
            simp [setEntry, equal, kept]
          · right
            refine ⟨by simp [setEntry, equal, grown], ?_⟩
            intro other member
            rcases List.mem_cons.mp member with rfl | member
            · exact equal
            · exact apart other member

end Value

namespace Settings

open Value (setEntry)

theorem entry?_cons (key value : Value) (rest : Entries) (name : String) :
    entry? ((key, value) :: rest) name =
      if (Value.text name).same key then some value else entry? rest name := by
  unfold entry?
  rw [List.find?_cons]
  cases named : (Value.text name).same key with
  | true => simp [named]
  | false => simp [named]

theorem entry?_append (first later : Entries) (name : String) :
    entry? (first ++ later) name = ( entry? first name).or ( entry? later name) := by
  unfold entry?
  rw [List.find?_append, Option.map_or]

theorem entry?_isSome {entries : Entries} {entry : Value × Value} {name : String}
    (member : entry ∈ entries) (named : (Value.text name).same entry.1 = true) :
    ( entry? entries name).isSome = true := by
  rw [ entry?, Option.isSome_map, List.find?_isSome]
  exact ⟨entry, member, named⟩

theorem entry?_setEntry (entries : Entries) (key value : Value) (name : String) :
    entry? (setEntry entries key value) name =
      if (Value.text name).same key then some value else entry? entries name := by
  induction entries with
  | nil => exact entry?_cons key value [] name
  | cons entry rest restEntry =>
      obtain ⟨known, old⟩ := entry
      cases equal : known.same key with
      | true =>
          rw [setEntry, if_pos equal, entry?_cons, entry?_cons, Value.same_text_congr equal name]
          split
          · rfl
          · rfl
      | false =>
          rw [setEntry, if_neg (by simp [equal]), entry?_cons, entry?_cons, restEntry]
          split
          next named =>
            have other : ¬(Value.text name).same key = true := by
              intro namedToo
              rw [Value.same_text_iff] at named namedToo
              rw [named, namedToo, Value.same_text_iff.mpr rfl] at equal
              cases equal
            rw [if_neg other]
          next => rfl

theorem entry?_setEntry_of_ne {name other : String} (apart : name ≠ other) (entries : Entries)
    (value : Value) :
    entry? (setEntry entries (.text other) value) name = entry? entries name := by
  rw [entry?_setEntry, if_neg]
  rw [Value.same_text_iff, Value.text.injEq]
  exact fun same => apart same.symm

theorem entry?_setEntry_self (entries : Entries) (name : String) (value : Value) :
    entry? (setEntry entries (.text name) value) name = some value := by
  rw [entry?_setEntry, if_pos (Value.same_text_iff.mpr rfl)]

def Dictionary (entries : Entries) : Prop :=
  (entries.map Prod.fst).Pairwise fun known key => known.same key = false

theorem entry?_eq_none {entries : Entries} {name : String}
    (absent : ∀ key ∈ entries.map Prod.fst, (Value.text name).same key = false) :
    entry? entries name = none := by
  induction entries with
  | nil => rfl
  | cons entry rest restAbsent =>
      obtain ⟨key, value⟩ := entry
      rw [entry?_cons, absent key List.mem_cons_self]
      exact restAbsent fun other member => absent other (List.mem_cons_of_mem _ member)

theorem Dictionary.entry?_tail {key value : Value} {rest : Entries} {name : String}
    (dictionary : Dictionary ((key, value) :: rest))
    (named : (Value.text name).same key = true) : entry? rest name = none := by
  have apart := (List.pairwise_cons.mp dictionary).1
  rw [Value.same_text_iff] at named
  rw [named] at apart
  exact entry?_eq_none apart

theorem Dictionary.tail {key value : Value} {rest : Entries}
    (dictionary : Dictionary ((key, value) :: rest)) : Dictionary rest :=
  (List.pairwise_cons.mp dictionary).2

structure Keyed (Admitted : Value → Prop) (entries : Entries) : Prop where
  dictionary : Dictionary entries
  admitted : ∀ key ∈ entries.map Prod.fst, Admitted key

variable {Admitted : Value → Prop} {entries : Entries}

theorem keyed_nil : Keyed Admitted [] := ⟨List.Pairwise.nil, List.forall_mem_nil _⟩

theorem keyed_setEntry (keyed : Keyed Admitted entries) {key : Value} (admitted : Admitted key)
    (value : Value) : Keyed Admitted (setEntry entries key value) := by
  rcases Value.keys_setEntry entries key value with kept | ⟨grown, apart⟩
  · refine ⟨?_, ?_⟩
    · rw [Dictionary, kept]
      exact keyed.dictionary
    · rw [kept]
      exact keyed.admitted
  · refine ⟨?_, ?_⟩
    · rw [Dictionary, grown, List.pairwise_append]
      refine ⟨keyed.dictionary, List.pairwise_singleton _ _, ?_⟩
      intro known member other last
      cases List.mem_singleton.mp last
      exact apart known member
    · rw [grown]
      intro known member
      rcases List.mem_append.mp member with member | last
      · exact keyed.admitted known member
      · cases List.mem_singleton.mp last
        exact admitted

theorem keyed_foldl_setEntry (keyed : Keyed Admitted entries) {more : Entries}
    (admitted : ∀ key ∈ more.map Prod.fst, Admitted key) :
    Keyed Admitted
      (more.foldl (fun made (key, value) => setEntry made key value) entries) := by
  induction more generalizing entries with
  | nil => exact keyed
  | cons entry rest restKeyed =>
      obtain ⟨key, value⟩ := entry
      have first := keyed_setEntry keyed (admitted key List.mem_cons_self) value
      exact restKeyed first fun other member => admitted other (List.mem_cons_of_mem _ member)

/-- A value over the one that stands in its place, if there is one. -/
def laid (older : Option Value) (value : Value) : Value :=
  match older with
  | some old => overlaid old value
  | none => value

/-- Only a dictionary is changed by what is below it, and it remains one. -/
theorem laid_cases (older : Option Value) (value : Value) :
    laid older value = value ∨
      ∃ entries others, value = .dict entries ∧ laid older value = .dict others := by
  cases older with
  | none => exact .inl rfl
  | some old =>
      rw [laid, overlaid.eq_def]
      cases value with
      | dict entries =>
          right
          cases old with
          | dict below => exact ⟨entries, _, rfl, rfl⟩
          | _ => exact ⟨entries, _, rfl, rfl⟩
      | _ => exact .inl rfl

theorem overlaidEntries_cons (below : Entries) (key value : Value) (rest : Entries) :
    ∃ laidValue, overlaidEntries below ((key, value) :: rest) =
      overlaidEntries (setEntry below key laidValue) rest ∧
      ∀ name, (Value.text name).same key = true → laidValue = laid ( entry? below name) value := by
  refine ⟨laid ((below.find? fun (known, _) => key.same known).map Prod.snd) value, ?_, ?_⟩
  · rw [overlaidEntries]
    rfl
  · intro name named
    rw [Value.same_text_iff] at named
    subst named
    rfl

theorem entry?_overlaidEntries {below above : Entries} (dictionary : Dictionary above)
    (name : String) :
    entry? (overlaidEntries below above) name =
      match entry? above name with
      | some value => some (laid ( entry? below name) value)
      | none => entry? below name := by
  induction above generalizing below with
  | nil =>
      rw [overlaidEntries]
      rfl
  | cons entry rest restEntry =>
      obtain ⟨key, value⟩ := entry
      obtain ⟨laidValue, same, named⟩ := overlaidEntries_cons below key value rest
      rw [same, restEntry dictionary.tail, entry?_setEntry, entry?_cons]
      cases hit : (Value.text name).same key with
      | true =>
          rw [dictionary.entry?_tail hit, named name hit]
          rfl
      | false => rfl

theorem keyed_overlaidEntries {below above : Entries} (keyed : Keyed Admitted below)
    (admitted : ∀ key ∈ above.map Prod.fst, Admitted key) :
    Keyed Admitted (overlaidEntries below above) := by
  induction above generalizing below with
  | nil =>
      rw [overlaidEntries]
      exact keyed
  | cons entry rest restKeyed =>
      obtain ⟨key, value⟩ := entry
      obtain ⟨laidValue, same, _⟩ := overlaidEntries_cons below key value rest
      rw [same]
      refine restKeyed (keyed_setEntry keyed (admitted key List.mem_cons_self) laidValue) ?_
      exact fun other member => admitted other (List.mem_cons_of_mem _ member)

def spells (name : String) : Value → Bool
  | .text given => lowercase given == name
  | _ => false

variable {names : List String} {name : String}

theorem same_exactKey (member : name ∈ names) (lower : lowercase name = name) (key : Value) :
    (Value.text name).same (exactKey names key) = spells name key := by
  cases key with
  | text given =>
      rw [exactKey, spells, Bool.eq_iff_iff, Value.same_text_iff, Value.text.injEq, beq_iff_eq]
      cases found : names.find? (· == lowercase given) with
      | some exact =>
          have same : exact = lowercase given := by simpa using List.find?_some found
          rw [Option.getD_some, same]
      | none =>
          have unspelled : lowercase given ≠ name := by
            intro same
            subst same
            simpa using List.find?_eq_none.mp found _ member
          rw [Option.getD_none]
          refine iff_of_false (fun same => unspelled ?_) unspelled
          rw [same, lower]
  | _ => simp [exactKey, spells, Value.same, Value.number?]

/-- A key that spells a name is that name. -/
def ExactFor (names : List String) (key : Value) : Prop :=
  ∀ name ∈ names, spells name key = true → key = .text name

theorem exactFor_of_lowercase (names : List String) {given : String}
    (lower : lowercase given = given) : ExactFor names (.text given) := by
  intro exact member spelled
  rw [spells, lower, beq_iff_eq] at spelled
  rw [spelled]

theorem spells_eq_same (member : name ∈ names) (lower : lowercase name = name) {key : Value}
    (exact : ExactFor names key) : spells name key = (Value.text name).same key := by
  rw [Bool.eq_iff_iff, Value.same_text_iff]
  refine ⟨exact name member, ?_⟩
  intro named
  subst named
  simp [spells, lower]

theorem entry?_withExactNames (member : name ∈ names) (lower : lowercase name = name)
    (keyed : Keyed (ExactFor names) entries) :
    entry? (withExactNames names entries) name = entry? entries name := by
  suffices laidOver : ∀ made : Entries,
      entry? (entries.foldl
        (fun named (key, value) => setEntry named (exactKey names key) value) made) name =
        ( entry? entries name).or ( entry? made name) by
    rw [withExactNames, laidOver]
    exact Option.or_none
  induction entries with
  | nil => exact fun made => rfl
  | cons entry rest restEntry =>
      obtain ⟨key, value⟩ := entry
      intro made
      have exact : ExactFor names key := keyed.admitted key List.mem_cons_self
      have restKeyed : Keyed (ExactFor names) rest :=
        ⟨keyed.dictionary.tail, fun other member =>
          keyed.admitted other (List.mem_cons_of_mem _ member)⟩
      rw [List.foldl_cons, restEntry restKeyed, entry?_setEntry, same_exactKey member lower,
        spells_eq_same member lower exact, entry?_cons]
      split
      next hit =>
        rw [keyed.dictionary.entry?_tail hit]
        rfl
      next => rfl

def spelled? (given : Entries) (name : String) : Option Value :=
  (given.find? fun (key, _) => spells name key).map Prod.snd

theorem spelled?_cons (key value : Value) (rest : Entries) (name : String) :
    spelled? ((key, value) :: rest) name =
      if spells name key then some value else spelled? rest name := by
  unfold spelled?
  rw [List.find?_cons]
  cases spelt : spells name key with
  | true => simp [spelt]
  | false => simp [spelt]

theorem entry?_withExactSections (member : name ∈ names) (lower : lowercase name = name)
    (given : Entries) : entry? (withExactSections names given) name = spelled? given name := by
  suffices laidOver : ∀ made : Entries,
      entry? (given.foldl (fun named (key, value) =>
        let exact := exactKey names key
        if named.any fun (known, _) => exact.same known then named
        else named ++ [(exact, value)]) made) name =
        ( entry? made name).or (spelled? given name) by
    rw [withExactSections, laidOver]
    rfl
  induction given with
  | nil => exact fun made => Option.or_none.symm
  | cons entry rest restEntry =>
      obtain ⟨key, value⟩ := entry
      intro made
      have spelled : spelled? ((key, value) :: rest) name =
          ( entry? [(exactKey names key, value)] name).or (spelled? rest name) := by
        rw [spelled?_cons, entry?_cons, same_exactKey member lower]
        split
        · rfl
        · rfl
      rw [List.foldl_cons, restEntry, spelled, ← Option.or_assoc]
      congr 1
      change entry? (if made.any fun (known, _) => (exactKey names key).same known then made
        else made ++ [(exactKey names key, value)]) name = _
      split
      next known =>
        -- A name that is there already is not given again.
        obtain ⟨held, heldMember, same⟩ := List.any_eq_true.mp known
        rw [entry?_cons]
        split
        next hit =>
          have isSome := entry?_isSome heldMember (by rwa [Value.same_text_iff.mp hit] at same)
          obtain ⟨old, found⟩ := Option.isSome_iff_exists.mp isSome
          rw [found]
          rfl
        next => exact Option.or_none.symm
      next => exact entry?_append made _ name

theorem exactKey_of_spells (member : name ∈ names) (lower : lowercase name = name) {key : Value}
    (spelt : spells name key = true) : exactKey names key = .text name := by
  rw [← Value.same_text_iff, same_exactKey member lower]
  exact spelt

theorem exists_of_mem_withExactSections {given : Entries} {entry : Value × Value}
    (member : entry ∈ withExactSections names given) :
    ∃ other ∈ given, entry.1 = exactKey names other.1 := by
  suffices laidOver : ∀ made : Entries, entry ∈ given.foldl (fun named (key, value) =>
      let exact := exactKey names key
      if named.any fun (known, _) => exact.same known then named
      else named ++ [(exact, value)]) made →
      entry ∈ made ∨ ∃ other ∈ given, entry.1 = exactKey names other.1 from
    (laidOver [] member).resolve_left List.not_mem_nil
  clear member
  induction given with
  | nil => exact fun made member => .inl member
  | cons first rest restMem =>
      obtain ⟨key, value⟩ := first
      intro made member
      rcases restMem _ member with held | ⟨other, otherMember, same⟩
      · change entry ∈ (if made.any fun (known, _) => (exactKey names key).same known then made
          else made ++ [(exactKey names key, value)]) at held
        split at held
        · exact .inl held
        · rcases List.mem_append.mp held with held | last
          · exact .inl held
          · cases List.mem_singleton.mp last
            exact .inr ⟨(key, value), List.mem_cons_self, rfl⟩
      · exact .inr ⟨other, List.mem_cons_of_mem _ otherMember, same⟩

end Settings

end InDoubt
