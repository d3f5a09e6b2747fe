import InDoubt.Proofs.Settings.Entries

namespace InDoubt

namespace Json

theorem after?_eq_some_iff {word characters rest : List Char} :
    after? word characters = some rest ↔ characters = word ++ rest := by
  induction word generalizing characters with
  | nil => simp [after?]
  | cons expected word wordAfter =>
      cases characters with
      | nil => simp [after?]
      | cons character characters =>
          simp only [after?, List.cons_append, List.cons.injEq]
          split
          next same => simp [wordAfter, same]
          next other => simp [Ne.symm other]

end Json

namespace Settings

open Value (setEntry)

theorem toLower_toLower (character : Char) : character.toLower.toLower = character.toLower := by
  unfold Char.toLower
  grind

theorem lowercase_eq_self_iff {text : String} :
    lowercase text = text ↔ ∀ character ∈ text.toList, character.toLower = character := by
  rw [lowercase, ← String.toList_inj, String.toList_ofList]
  have unchanged := List.map_inj_left (l := text.toList) (f := Char.toLower) (g := id)
  rwa [List.map_id] at unchanged

theorem lowercase_lowercase (text : String) : lowercase (lowercase text) = lowercase text := by
  rw [lowercase_eq_self_iff, lowercase, String.toList_ofList]
  intro character member
  obtain ⟨original, _, rfl⟩ := List.mem_map.mp member
  exact toLower_toLower original

def textOf? (environment : Environment) (name : String) : Option String :=
  (environment.find? fun (given, _) => lowercase given == name).map Prod.snd

def NamesApart (environment : Environment) : Prop :=
  (environment.map fun given => lowercase given.1).Nodup

instance (environment : Environment) : Decidable (NamesApart environment) :=
  inferInstanceAs (Decidable (List.Nodup _))

def inLowercase (environment : Environment) : Environment :=
  environment.map fun (name, text) => (lowercase name, text)

theorem normalized_eq_inLowercase {environment : Environment} (apart : NamesApart environment) :
    normalized environment = inLowercase environment := by
  suffices added : ∀ known : Environment,
      (known.map Prod.fst ++ environment.map fun given => lowercase given.1).Nodup →
      environment.foldl (fun known (name, text) =>
        let name := lowercase name
        if known.any (·.1 == name) then
          known.map fun (other, old) => if other == name then (other, text) else (other, old)
        else known ++ [(name, text)]) known = known ++ inLowercase environment from added [] apart
  clear apart
  induction environment with
  | nil => exact fun known _ => (List.append_nil known).symm
  | cons entry rest restAdded =>
      obtain ⟨name, text⟩ := entry
      intro known apart
      have fresh : known.any (·.1 == lowercase name) = false := by
        rw [List.any_eq_false]
        intro other member equal
        have disjoint := (List.nodup_append.mp apart).2.2 other.1 (List.mem_map_of_mem member)
          (lowercase name) List.mem_cons_self
        exact disjoint (by simpa using equal)
      rw [List.foldl_cons]
      simp only [fresh, Bool.false_eq_true, if_false]
      rw [restAdded (known ++ [(lowercase name, text)]), List.append_assoc]
      · rfl
      · simpa using apart

theorem lookup_inLowercase (environment : Environment) (name : String) :
    (inLowercase environment).lookup name = textOf? environment name := by
  induction environment with
  | nil => rfl
  | cons entry rest restLookup =>
      obtain ⟨given, text⟩ := entry
      rw [inLowercase, List.map_cons, ← inLowercase, List.lookup_cons, restLookup, textOf?,
        textOf?, List.find?_cons, Bool.beq_comm]
      cases same : lowercase given == name with
      | true => simp [same]
      | false => simp [same]

theorem names_inLowercase (environment : Environment) :
    (inLowercase environment).map Prod.fst =
      environment.map fun given => lowercase given.1 := by
  rw [inLowercase, List.map_map]
  rfl

theorem lowercase_names (environment : Environment) :
    ∀ name ∈ (inLowercase environment).map Prod.fst, lowercase name = name := by
  rw [names_inLowercase]
  intro name member
  obtain ⟨entry, _, rfl⟩ := List.mem_map.mp member
  exact lowercase_lowercase entry.1

theorem pathOf_cases (characters : List Char) :
    pathOf characters = [characters] ∨
      ∃ first next others, pathOf characters = first :: next :: others ∧
        first ++ ['_', '_'] <+: characters := by
  fun_induction pathOf characters with
  | case1 rest restCases =>
      right
      obtain ⟨next, others, same⟩ : ∃ next others, pathOf rest = next :: others := by
        rcases restCases with same | ⟨first, next, others, same, _⟩
        · exact ⟨rest, [], same⟩
        · exact ⟨first, next :: others, same⟩
      exact ⟨[], next, others, by rw [same], List.prefix_append ['_', '_'] rest⟩
  | case2 character rest notSeparator first others same restCases =>
      rcases restCases with whole | ⟨first', next, others', same', below⟩
      · left
        cases whole.symm.trans same
        rfl
      · right
        cases same'.symm.trans same
        exact ⟨character :: first, next, others', rfl, (List.cons_prefix_cons).mpr ⟨rfl, below⟩⟩
  | case3 character rest notSeparator same restCases =>
      rcases restCases with whole | ⟨first, next, others, same', _⟩
      · cases whole.symm.trans same
      · cases same'.symm.trans same
  | case4 => exact .inl rfl

theorem mem_of_mem_pathOf {characters component : List Char} {character : Char}
    (component_mem : component ∈ pathOf characters) (member : character ∈ component) :
    character ∈ characters := by
  fun_induction pathOf characters generalizing component with
  | case1 rest restMem =>
      rcases List.mem_cons.mp component_mem with rfl | later
      · cases member
      · exact List.mem_cons_of_mem _ (List.mem_cons_of_mem _ (restMem later member))
  | case2 head rest notSeparator first others same restMem =>
      rw [same] at restMem
      rcases List.mem_cons.mp component_mem with rfl | later
      · rcases List.mem_cons.mp member with rfl | member
        · exact List.mem_cons_self
        · exact List.mem_cons_of_mem _ (restMem List.mem_cons_self member)
      · exact List.mem_cons_of_mem _ (restMem (List.mem_cons_of_mem _ later) member)
  | case3 head rest notSeparator same restMem =>
      cases List.mem_singleton.mp component_mem
      cases List.mem_singleton.mp member
      exact List.mem_cons_self
  | case4 =>
      cases List.mem_singleton.mp component_mem
      exact member

theorem entry?_place_of_ne {name first : String} (apart : name ≠ first) (entries : Entries)
    (path : List String) (text : String) :
    entry? (place entries (first :: path) text) name = entry? entries name := by
  cases path with
  | nil => exact entry?_setEntry_of_ne apart entries _
  | cons next others =>
      rw [place]
      · split
        · exact entry?_setEntry_of_ne apart entries _
        · exact entry?_setEntry_of_ne apart entries _
        · rfl
      · simp

theorem keyed_place {Admitted : Value → Prop} {entries : Entries}
    (keyed : Keyed Admitted entries) {first : String} (admitted : Admitted (.text first))
    (path : List String) (text : String) : Keyed Admitted (place entries (first :: path) text) := by
  cases path with
  | nil => exact keyed_setEntry keyed admitted _
  | cons next others =>
      rw [place]
      · split
        · exact keyed_setEntry keyed admitted _
        · exact keyed_setEntry keyed admitted _
        · exact keyed
      · simp

namespace Section

def settingVariable (part : Section) (label : String) : String :=
  part.variableName ++ "__" ++ label

/-- A variable that is about something below a setting. -/
def ReachesBelow (part : Section) (label name : String) : Prop :=
  (part.settingVariable label ++ "__").toList <+: name.toList

instance (part : Section) (label name : String) : Decidable (part.ReachesBelow label name) :=
  inferInstanceAs (Decidable ((part.settingVariable label ++ "__").toList <+: name.toList))

def placedBy (part : Section) (entries : Entries) (given : String × String) : Entries :=
  match Json.after? (part.variableName ++ "__").toList given.1.toList with
  | some path => place entries ((pathOf path).map String.ofList) given.2
  | none => entries

theorem fromVariables_eq (part : Section) (environment : Environment) :
    part.fromVariables environment = environment.foldl part.placedBy [] := rfl

variable {part : Section} {label : String}

theorem entry?_placedBy (simple : pathOf label.toList = [label.toList]) (entries : Entries)
    {name : String} (notBelow : ¬part.ReachesBelow label name) (text : String) :
    entry? (part.placedBy entries (name, text)) label =
      if name = part.settingVariable label then some (.text text) else entry? entries label := by
  rw [placedBy]
  split
  next path found =>
    rw [Json.after?_eq_some_iff] at found
    simp only at found
    have own : name = part.settingVariable label ↔ path = label.toList := by
      rw [← String.toList_inj, found, settingVariable, String.toList_append, String.toList_append,
        String.toList_append, List.append_cancel_left_eq]
    rcases pathOf_cases path with whole | ⟨first, next, others, same, below⟩
    · rw [whole, List.map_singleton, place]
      by_cases same : path = label.toList
      · rw [if_pos (own.mpr same), same, String.ofList_toList]
        exact entry?_setEntry_self entries label _
      · rw [if_neg (fun named => same (own.mp named))]
        refine entry?_setEntry_of_ne (fun named => same ?_) entries _
        rw [named, String.toList_ofList]
    · have other : label ≠ String.ofList first := by
        intro named
        apply notBelow
        rw [ReachesBelow, settingVariable, found, String.toList_append, String.toList_append,
          List.append_assoc, List.prefix_append_right_inj, named, String.toList_ofList]
        exact below
      rw [if_neg, same, List.map_cons, entry?_place_of_ne other]
      intro named
      rw [own.mp named, simple] at same
      cases same
  next absent =>
    rw [if_neg]
    intro named
    have found :
        Json.after? (part.variableName ++ "__").toList name.toList = some label.toList := by
      rw [Json.after?_eq_some_iff, named, settingVariable, String.toList_append]
    cases absent.symm.trans found

theorem entry?_fromVariables (simple : pathOf label.toList = [label.toList])
    {environment : Environment} (apart : (environment.map Prod.fst).Nodup)
    (notBelow : ∀ name ∈ environment.map Prod.fst, ¬part.ReachesBelow label name) :
    entry? (part.fromVariables environment) label =
      (environment.lookup (part.settingVariable label)).map .text := by
  suffices placed : ∀ entries : Entries,
      entry? (environment.foldl part.placedBy entries) label =
        ((environment.lookup (part.settingVariable label)).map Value.text).or
          ( entry? entries label) by
    rw [fromVariables_eq, placed]
    exact Option.or_none
  induction environment with
  | nil => exact fun entries => rfl
  | cons given rest restPlaced =>
      obtain ⟨name, text⟩ := given
      obtain ⟨fresh, restApart⟩ := List.nodup_cons.mp apart
      have restBelow := fun other member => notBelow other (List.mem_cons_of_mem _ member)
      intro entries
      rw [List.foldl_cons, restPlaced restApart restBelow,
        entry?_placedBy simple entries (notBelow name List.mem_cons_self), List.lookup_cons]
      split
      next own =>
        subst own
        have absent : rest.lookup (part.settingVariable label) = none := by
          rw [List.lookup_eq_none_iff]
          intro other member
          rw [bne_iff_ne]
          exact fun same => fresh (List.mem_map.mpr ⟨other, member, same.symm⟩)
        rw [absent, beq_self_eq_true]
        rfl
      next foreign => rw [beq_false_of_ne (Ne.symm foreign)]

theorem keyed_fromVariables (part : Section) (names : List String) {environment : Environment}
    (lower : ∀ name ∈ environment.map Prod.fst, lowercase name = name) :
    Keyed (ExactFor names) (part.fromVariables environment) := by
  suffices placed : ∀ entries : Entries, Keyed (ExactFor names) entries →
      Keyed (ExactFor names) (environment.foldl part.placedBy entries) from placed [] keyed_nil
  induction environment with
  | nil => exact fun entries keyed => keyed
  | cons given rest restPlaced =>
      obtain ⟨name, text⟩ := given
      intro entries keyed
      refine restPlaced (fun other member => lower other (List.mem_cons_of_mem _ member)) _ ?_
      rw [placedBy]
      split
      next path found =>
        rw [Json.after?_eq_some_iff] at found
        obtain ⟨first, others, same⟩ : ∃ first others, pathOf path = first :: others := by
          rcases pathOf_cases path with whole | ⟨first, next, others, same, _⟩
          · exact ⟨path, [], whole⟩
          · exact ⟨first, next :: others, same⟩
        rw [same]
        refine keyed_place keyed (exactFor_of_lowercase names ?_) _ text
        rw [lowercase_eq_self_iff, String.toList_ofList]
        intro character characterMember
        refine lowercase_eq_self_iff.mp (lower name List.mem_cons_self) character ?_
        rw [found]
        refine List.mem_append_right _ (mem_of_mem_pathOf ?_ characterMember)
        rw [same]
        exact List.mem_cons_self
      next => exact keyed

end Section

end Settings

end InDoubt
