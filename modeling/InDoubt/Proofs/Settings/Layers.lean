import InDoubt.Proofs.Json.Objects
import InDoubt.Proofs.Settings.Constraint
import InDoubt.Proofs.Settings.Variables

namespace InDoubt

open Outcome

namespace Settings

def entriesIn : Option Value → Entries
  | some (.dict entries) => entries
  | _ => []

def sectionJson? (room : Nat) (environment : Environment) (part : Section) : Option Value :=
  (textOf? environment part.variableName).bind fun text => (Json.read room text).toOption

namespace Setting

def explicit? (setting : Setting) (given : Entries) : Option Value :=
  entry? (entriesIn (spelled? given setting.part.name)) setting.label

def own? (setting : Setting) (environment : Environment) : Option Value :=
  (textOf? environment (setting.part.settingVariable setting.label)).map .text

def inSection? (room : Nat) (setting : Setting) (environment : Environment) : Option Value :=
  entry? (entriesIn (sectionJson? room environment setting.part)) setting.label

theorem inSection?_of_read {room : Nat} {setting : Setting} {environment : Environment}
    {text : String} {entries : Entries}
    (found : textOf? environment setting.part.variableName = some text)
    (read : Json.read room text = .ok (.dict entries)) :
    setting.inSection? room environment = entry? entries setting.label := by
  rw [inSection?, sectionJson?, found, Option.bind_some, read]
  rfl

theorem inSection?_of_absent {room : Nat} {setting : Setting} {environment : Environment}
    (absent : textOf? environment setting.part.variableName = none) :
    setting.inSection? room environment = none := by
  rw [inSection?, sectionJson?, absent]
  rfl

/-- The input of a setting, unless it is left at its default. -/
def effective? (room : Nat) (setting : Setting) (given : Entries) (environment : Environment) :
    Option Value :=
  (setting.explicit? given).or
    ((setting.own? environment).or (setting.inSection? room environment))

def default (setting : Setting) : setting.Content :=
  held ⟨.default, .default⟩ setting

def outcome (host : Host) (setting : Setting) : Option Value → Except Complaint setting.Content
  | none => .ok setting.default
  | some value => setting.read host value

theorem lowercase_label (setting : Setting) : lowercase setting.label = setting.label := by
  cases setting with
  | _ => rfl

theorem pathOf_label (setting : Setting) :
    pathOf setting.label.toList = [setting.label.toList] := by
  cases setting with
  | _ => rfl

theorem label_mem (setting : Setting) : setting.label ∈ setting.part.settingNames := by
  cases setting with
  | _ => decide

end Setting

def sections : List Section := [recoverySection, observabilitySection]

theorem lowercase_name {part : Section} (known : part ∈ sections) :
    lowercase part.name = part.name := by
  rcases List.mem_cons.mp known with rfl | known
  · rfl
  · cases List.mem_singleton.mp known
    rfl

theorem Setting.part_mem (setting : Setting) : setting.part ∈ sections := by
  cases setting with
  | statement => exact List.mem_cons_self
  | _ => exact List.mem_cons_of_mem _ List.mem_cons_self

/-- Explicit values by section and an environment in which no two names are equal up to case, no
variable reaches below a setting and the JSON of a section is an object with settings under their
exact names. -/
structure Admissible (room : Nat) (given : Entries) (environment : Environment) : Prop where
  bySection : ∀ entry ∈ given, ∃ part ∈ sections, spells part.name entry.1 = true ∧
    ∃ entries, entry.2 = .dict entries ∧ Dictionary entries
  apart : NamesApart environment
  notBelow : ∀ given' ∈ environment, ∀ setting : Setting,
    ¬setting.part.ReachesBelow setting.label (lowercase given'.1)
  objects : ∀ part ∈ sections, ∀ text, textOf? environment part.variableName = some text →
    ∃ entries, Json.read room text = .ok (.dict entries) ∧
      ∀ key ∈ entries.map Prod.fst, ExactFor part.settingNames key

theorem notBelow_of_all {environment : Environment}
    (apart : ∀ given' ∈ environment, ∀ setting ∈ Setting.all,
      ¬setting.part.ReachesBelow setting.label (lowercase given'.1)) :
    ∀ given' ∈ environment, ∀ setting : Setting,
      ¬setting.part.ReachesBelow setting.label (lowercase given'.1) :=
  fun given' member setting => apart given' member setting setting.mem_all

theorem object_of_absent {room : Nat} {environment : Environment} {part : Section}
    (absent : textOf? environment part.variableName = none) :
    ∀ text, textOf? environment part.variableName = some text →
      ∃ entries, Json.read room text = .ok (.dict entries) ∧
        ∀ key ∈ entries.map Prod.fst, ExactFor part.settingNames key := by
  intro text found
  cases absent.symm.trans found

theorem object_of_read {room : Nat} {environment : Environment} {part : Section} {json : String}
    {entries : Entries} (found : textOf? environment part.variableName = some json)
    (read : Json.read room json = .ok (.dict entries))
    (exact : ∀ key ∈ entries.map Prod.fst, ExactFor part.settingNames key) :
    ∀ text, textOf? environment part.variableName = some text →
      ∃ entries, Json.read room text = .ok (.dict entries) ∧
        ∀ key ∈ entries.map Prod.fst, ExactFor part.settingNames key := by
  intro text isText
  cases found.symm.trans isText
  exact ⟨entries, read, exact⟩

variable {room : Nat} {given : Entries} {environment : Environment}

namespace Admissible

theorem entry?_fromVariables (admissible : Admissible room given environment) (setting : Setting) :
    entry? (setting.part.fromVariables (inLowercase environment)) setting.label =
      setting.own? environment := by
  rw [Section.entry?_fromVariables setting.pathOf_label, lookup_inLowercase]
  · rfl
  · rw [names_inLowercase]
    exact admissible.apart
  · rw [names_inLowercase]
    intro name member
    obtain ⟨entry, entryMember, rfl⟩ := List.mem_map.mp member
    exact admissible.notBelow entry entryMember setting

theorem fromEnvironment_of_absent (admissible : Admissible room given environment) {part : Section}
    (absent : textOf? environment part.variableName = none) :
    ∃ below, part.fromEnvironment room (inLowercase environment) = .ok below ∧
      (below = none ∨ ∃ entries, below = some (.dict entries)) ∧
      ∀ setting : Setting, setting.part = part →
        entry? (entriesIn below) setting.label = setting.own? environment := by
  have keyed := part.keyed_fromVariables part.settingNames (lowercase_names environment)
  unfold Section.fromEnvironment
  simp only [lookup_inLowercase, absent]
  refine ⟨_, rfl, ?_, ?_⟩
  · split
    · exact .inl rfl
    · exact .inr ⟨_, rfl⟩
  · rintro setting rfl
    rw [← admissible.entry?_fromVariables setting]
    split
    next empty =>
      rw [List.isEmpty_iff] at empty
      rw [empty]
      rfl
    next => exact entry?_withExactNames setting.label_mem setting.lowercase_label keyed

theorem fromEnvironment_of_object (admissible : Admissible room given environment) {part : Section}
    {text : String} {entries : Entries} (found : textOf? environment part.variableName = some text)
    (read : Json.read room text = .ok (.dict entries))
    (exact : ∀ key ∈ entries.map Prod.fst, ExactFor part.settingNames key) :
    ∃ below, part.fromEnvironment room (inLowercase environment) = .ok (some (.dict below)) ∧
      ∀ setting : Setting, setting.part = part →
        entry? below setting.label =
          (setting.own? environment).or ( entry? entries setting.label) := by
  have keyed := part.keyed_fromVariables part.settingNames (lowercase_names environment)
  have json : Keyed (ExactFor part.settingNames) entries := ⟨Json.dictionary_of_read read, exact⟩
  unfold Section.fromEnvironment
  simp only [lookup_inLowercase, found, read]
  refine ⟨_, rfl, ?_⟩
  rintro setting rfl
  rw [entry?_withExactNames setting.label_mem setting.lowercase_label
    (keyed_overlaidEntries json keyed.admitted), entry?_overlaidEntries keyed.dictionary,
    admissible.entry?_fromVariables setting, Setting.own?]
  cases textOf? environment (setting.part.settingVariable setting.label) with
  | none => rfl
  | some text =>
      rcases laid_cases ( entry? entries setting.label) (.text text) with same | ⟨_, _, isDict, _⟩
      · simp only [Option.map_some, same, Option.some_or]
      · cases isDict

theorem fromEnvironment_eq (admissible : Admissible room given environment) {part : Section}
    (known : part ∈ sections) :
    ∃ below, part.fromEnvironment room (normalized environment) = .ok below ∧
      (below = none ∨ ∃ entries, below = some (.dict entries)) ∧
      ∀ setting : Setting, setting.part = part →
        entry? (entriesIn below) setting.label =
          (setting.own? environment).or (setting.inSection? room environment) := by
  rw [normalized_eq_inLowercase admissible.apart]
  cases found : textOf? environment part.variableName with
  | none =>
      obtain ⟨below, fromVariables, shape, own⟩ := admissible.fromEnvironment_of_absent found
      refine ⟨below, fromVariables, shape, ?_⟩
      rintro setting rfl
      rw [own setting rfl, Setting.inSection?_of_absent found, Option.or_none]
  | some text =>
      obtain ⟨entries, read, exact⟩ := admissible.objects part known text found
      obtain ⟨below, fromBoth, own⟩ := admissible.fromEnvironment_of_object found read exact
      refine ⟨_, fromBoth, .inr ⟨below, rfl⟩, ?_⟩
      rintro setting rfl
      rw [entriesIn, own setting rfl, Setting.inSection?_of_read found read]

theorem outcome_overlaidEntries {host : Host} {entries : Entries} (dictionary : Dictionary entries)
    (older : Entries) (setting : Setting) :
    setting.outcome host ( entry? (overlaidEntries older entries) setting.label) =
      setting.outcome host (( entry? entries setting.label).or ( entry? older setting.label)) := by
  rw [entry?_overlaidEntries dictionary]
  cases entry? entries setting.label with
  | none => rfl
  | some value => exact setting.read_laid _ value

/-- The input of a section is nothing, or a dictionary in which each setting stands for its
effective input; only a dictionary that was given may have been laid over another. -/
theorem input_eq (host : Host) (admissible : Admissible room given environment) {part : Section}
    (known : part ∈ sections) :
    ∃ input, part.input room (withExactSections (sections.map Section.name) given)
        (normalized environment) = .ok input ∧
      (input = none ∨ ∃ entries, input = some (.dict entries)) ∧
      ∀ setting : Setting, setting.part = part →
        setting.outcome host ( entry? (entriesIn input) setting.label) =
          setting.outcome host (setting.effective? room given environment) := by
  obtain ⟨below, fromEnvironment, belowShape, belowEntry⟩ := admissible.fromEnvironment_eq known
  have explicit : entry? (withExactSections (sections.map Section.name) given) part.name =
      spelled? given part.name := by
    exact entry?_withExactSections (List.mem_map_of_mem known) (lowercase_name known) given
  unfold Section.input
  rw [fromEnvironment, explicit]
  refine ⟨_, rfl, ?_⟩
  cases found : spelled? given part.name with
  | none =>
      refine ⟨belowShape, ?_⟩
      rintro setting rfl
      rw [belowEntry setting rfl, Setting.effective?, Setting.explicit?, found]
      rfl
  | some value =>
      obtain ⟨entry, member, rfl⟩ := Option.map_eq_some_iff.mp found
      obtain ⟨_, _, _, entries, isDict, dictionary⟩ :=
        admissible.bySection entry (List.mem_of_find?_eq_some member)
      rw [isDict] at found ⊢
      have explicitly : ∀ setting : Setting, setting.part = part →
          setting.explicit? given = entry? entries setting.label := by
        rintro setting rfl
        rw [Setting.explicit?, found]
        rfl
      rcases belowShape with rfl | ⟨older, rfl⟩
      · refine ⟨.inr ⟨entries, rfl⟩, ?_⟩
        intro setting same
        rw [Setting.effective?, explicitly setting same, ← belowEntry setting same]
        exact congrArg (setting.outcome host) Option.or_none.symm
      · have overlay : overlaid (.dict older) (.dict entries) =
            .dict (overlaidEntries older entries) := by rw [overlaid]
        refine ⟨.inr ⟨_, congrArg some overlay⟩, ?_⟩
        intro setting same
        simp only [overlay]
        rw [Setting.effective?, explicitly setting same, ← belowEntry setting same]
        exact outcome_overlaidEntries dictionary older setting

end Admissible

end Settings

end InDoubt
