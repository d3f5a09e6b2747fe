import Mathlib.Data.List.Nodup
import InDoubt.Proofs.Settings.Layers

/-!
What loading gives, setting by setting: each holds what its own effective input comes to, all that
do not meet what they are declared to be are reported and no others, and no setting is touched by
where the others come from.
-/

namespace InDoubt

open Outcome

namespace Settings

section Checks

variable {α β : Type}

def problemsOf : Checked α → List Problem
  | .ok _ => []
  | .error problems => problems

theorem apply_eq_ok_iff {function : Checked (α → β)} {argument : Checked α} {result : β} :
    function.apply argument = .ok result ↔
      ∃ apply value, function = .ok apply ∧ argument = .ok value ∧ apply value = result := by
  cases function with
  | ok apply =>
      cases argument with
      | ok value => simp [Checked.apply]
      | error problems => simp [Checked.apply]
  | error problems =>
      cases argument with
      | ok value => simp [Checked.apply]
      | error more => simp [Checked.apply]

theorem problemsOf_apply (function : Checked (α → β)) (argument : Checked α) :
    problemsOf (function.apply argument) = problemsOf function ++ problemsOf argument := by
  cases function with
  | ok apply =>
      cases argument with
      | ok value => rfl
      | error problems => rfl
  | error problems =>
      cases argument with
      | ok value => exact (List.append_nil problems).symm
      | error more => rfl

theorem problemsOf_map (checked : Checked α) (change : α → β) :
    problemsOf (checked.map change) = problemsOf checked := by
  cases checked with
  | ok value => rfl
  | error problems => rfl

def within (outer : String) (checked : Checked α) : Checked α :=
  checked.mapError fun problems => problems.map (·.within outer)

theorem within_apply (outer : String) (function : Checked (α → β)) (argument : Checked α) :
    within outer (function.apply argument) =
      (within outer function).apply (within outer argument) := by
  cases function with
  | ok apply =>
      cases argument with
      | ok value => rfl
      | error problems => rfl
  | error problems =>
      cases argument with
      | ok value => rfl
      | error more => exact congrArg Except.error List.map_append

theorem within_map (outer : String) (checked : Checked α) (change : α → β) :
    within outer (checked.map change) = (within outer checked).map change := by
  cases checked with
  | ok value => rfl
  | error problems => rfl

end Checks

def Setting.checked (host : Host) (setting : Setting) (input : Option Value) :
    Checked setting.Content :=
  (setting.outcome host input).mapError fun complaint => [⟨setting.path, complaint⟩]

theorem Setting.within_setting (host : Host) (setting : Setting) (entries : Entries) :
    within setting.part.name
        (Settings.setting entries setting.label setting.default (setting.read host)) =
      setting.checked host ( entry? entries setting.label) := by
  unfold Settings.setting Setting.checked Setting.outcome
  cases entry? entries setting.label with
  | none => rfl
  | some value =>
      simp only
      cases setting.read host value with
      | ok content => rfl
      | error complaint => rfl

def assembled (check : (setting : Setting) → Checked setting.Content) : Checked Settings :=
  let recovery := (check .statement).map RecoverySettings.mk
  let observability := ((((Checked.apply (.ok ObservabilitySettings.mk)
    (check .logLevel)).apply (check .logFormat)).apply (check .metricsPort)).apply
    (check .otelEndpoint)).apply (check .otelServiceName)
  ((Checked.apply (.ok fun recovery observability (_ : Unit) =>
    (⟨recovery, observability⟩ : Settings)) recovery).apply observability).apply (.ok ())

theorem assembled_eq_ok_iff {check : (setting : Setting) → Checked setting.Content}
    {settings : Settings} :
    assembled check = .ok settings ↔ ∀ setting, check setting = .ok (settings.held setting) := by
  simp only [assembled, apply_eq_ok_iff, map_eq_ok_iff]
  constructor
  · rintro ⟨_, _, ⟨_, _, ⟨_, _, whole, ⟨statement, isStatement, rfl⟩, rfl⟩,
      ⟨_, name, ⟨_, endpoint, ⟨_, port, ⟨_, format, ⟨_, level, part, isLevel, rfl⟩, isFormat, rfl⟩,
        isPort, rfl⟩, isEndpoint, rfl⟩, isName, rfl⟩, rfl⟩, _, rfl⟩
    cases whole
    cases part
    intro setting
    cases setting with
    | statement => exact isStatement
    | logLevel => exact isLevel
    | logFormat => exact isFormat
    | metricsPort => exact isPort
    | otelEndpoint => exact isEndpoint
    | otelServiceName => exact isName
  · intro each
    exact ⟨_, (), ⟨_, _, ⟨_, _, rfl, ⟨_, each .statement, rfl⟩, rfl⟩,
      ⟨_, _, ⟨_, _, ⟨_, _, ⟨_, _, ⟨_, _, rfl, each .logLevel, rfl⟩, each .logFormat, rfl⟩,
        each .metricsPort, rfl⟩, each .otelEndpoint, rfl⟩, each .otelServiceName, rfl⟩, rfl⟩,
      trivial, rfl⟩

theorem problemsOf_assembled (check : (setting : Setting) → Checked setting.Content) :
    problemsOf (assembled check) =
      Setting.all.flatMap fun setting => problemsOf (check setting) := by
  simp only [assembled, problemsOf_apply, problemsOf_map]
  simp [problemsOf, Setting.all]

theorem Section.read_eq {α : Type} {part : Section} {fallback : α}
    {readEntries : Entries → Checked α} (nothing : readEntries [] = .ok fallback)
    {input : Option Value} (shape : input = none ∨ ∃ entries, input = some (.dict entries)) :
    part.read fallback readEntries input = within part.name (readEntries (entriesIn input)) := by
  obtain rfl | ⟨entries, rfl⟩ := shape
  · rw [Section.read, entriesIn, nothing]
    · rfl
    · simp
  · rfl

variable {host : Host} {room : Nat} {given : Entries} {environment : Environment}

theorem unknownSections_eq (admissible : Admissible room given environment) :
    unknownSections (withExactSections (sections.map Section.name) given) = .ok () := by
  refine if_pos (List.isEmpty_iff.mpr (List.filterMap_eq_nil_iff.mpr ?_))
  intro entry member
  obtain ⟨other, otherMember, same⟩ := exists_of_mem_withExactSections member
  obtain ⟨part, partMember, spelt, _⟩ := admissible.bySection other otherMember
  rw [exactKey_of_spells (List.mem_map_of_mem partMember) (lowercase_name partMember) spelt] at same
  simp only [same]
  rcases List.mem_cons.mp partMember with rfl | partMember
  · rfl
  · cases List.mem_singleton.mp partMember
    rfl

section Sections

variable {input : Option Value} {check : (setting : Setting) → Checked setting.Content}

theorem within_setting_eq {part : Section}
    (checks : ∀ setting : Setting, setting.part = part →
      setting.checked host ( entry? (entriesIn input) setting.label) = check setting)
    {setting : Setting} (same : setting.part = part) :
    within part.name (Settings.setting (entriesIn input) setting.label setting.default
      (setting.read host)) = check setting := by
  rw [← checks setting same, ← same]
  exact setting.within_setting host _

theorem read_recovery (shape : input = none ∨ ∃ entries, input = some (.dict entries))
    (checks : ∀ setting : Setting, setting.part = recoverySection →
      setting.checked host ( entry? (entriesIn input) setting.label) = check setting) :
    recoverySection.read .default (RecoverySettings.read host) input =
      (check .statement).map RecoverySettings.mk := by
  have nothing : RecoverySettings.read host [] = .ok .default := rfl
  rw [Section.read_eq nothing shape, RecoverySettings.read, within_map,
    ← within_setting_eq checks (rfl : Setting.statement.part = _)]
  rfl

theorem read_observability (shape : input = none ∨ ∃ entries, input = some (.dict entries))
    (checks : ∀ setting : Setting, setting.part = observabilitySection →
      setting.checked host ( entry? (entriesIn input) setting.label) = check setting) :
    observabilitySection.read .default (ObservabilitySettings.read host) input =
      ((((Checked.apply (.ok ObservabilitySettings.mk) (check .logLevel)).apply
        (check .logFormat)).apply (check .metricsPort)).apply (check .otelEndpoint)).apply
        (check .otelServiceName) := by
  have nothing : ObservabilitySettings.read host [] = .ok .default := rfl
  rw [Section.read_eq nothing shape, ObservabilitySettings.read]
  simp only [within_apply]
  rw [← within_setting_eq checks (rfl : Setting.logLevel.part = _),
    ← within_setting_eq checks (rfl : Setting.logFormat.part = _),
    ← within_setting_eq checks (rfl : Setting.metricsPort.part = _),
    ← within_setting_eq checks (rfl : Setting.otelEndpoint.part = _),
    ← within_setting_eq checks (rfl : Setting.otelServiceName.part = _)]
  rfl

end Sections

theorem load_eq (admissible : Admissible host.room given environment) :
    load host given environment =
      (assembled fun setting : Setting =>
        setting.checked host
          (setting.effective? host.room given environment)).mapError .invalid := by
  obtain ⟨recoveryInput, readRecovery, recoveryShape, recoveryOutcome⟩ :=
    admissible.input_eq host (Setting.part_mem .statement)
  obtain ⟨observabilityInput, readObservability, observabilityShape, observabilityOutcome⟩ :=
    admissible.input_eq host (Setting.part_mem .logLevel)
  have recoveryChecks := fun setting same =>
    congrArg (Except.mapError fun complaint => [(⟨setting.path, complaint⟩ : Problem)])
      (recoveryOutcome setting same)
  have observabilityChecks := fun setting same =>
    congrArg (Except.mapError fun complaint => [(⟨setting.path, complaint⟩ : Problem)])
      (observabilityOutcome setting same)
  have loaded : load host given environment = (do
      let explicit := withExactSections (sections.map Section.name) given
      let recoveryInput ← recoverySection.input host.room explicit (normalized environment)
      let observabilityInput ←
        observabilitySection.input host.room explicit (normalized environment)
      (((Checked.apply (.ok fun recovery observability (_ : Unit) =>
        (⟨recovery, observability⟩ : Settings))
        (recoverySection.read .default (RecoverySettings.read host) recoveryInput)).apply
        (observabilitySection.read .default (ObservabilitySettings.read host)
          observabilityInput)).apply
        (unknownSections explicit)).mapError Failure.invalid) := rfl
  change recoverySection.input host.room
    (withExactSections (sections.map Section.name) given) _ = _ at readRecovery
  change observabilitySection.input host.room
    (withExactSections (sections.map Section.name) given) _ = _ at readObservability
  simp only [loaded, readRecovery, readObservability, bind, Except.bind]
  rw [read_recovery recoveryShape recoveryChecks,
    read_observability observabilityShape observabilityChecks, unknownSections_eq admissible]
  rfl

namespace Setting

/-- The effective input of a setting does not meet what it is declared to be. -/
def Offends (host : Host) (setting : Setting) (given : Entries) (environment : Environment) :
    Prop :=
  ∃ value, setting.effective? host.room given environment = some value ∧ ¬setting.Meets host value

/-- A setting holds what its input comes to, or its default where there is none. -/
def Holds (host : Host) (setting : Setting) (input : Option Value) (content : setting.Content) :
    Prop :=
  match input with
  | none => content = setting.default
  | some value => setting.Takes host value content

variable {setting : Setting} {input : Option Value} {content : setting.Content}

theorem checked_eq_ok_iff :
    setting.checked host input = .ok content ↔ setting.Holds host input content := by
  rw [checked, mapError_eq_ok_iff]
  cases input with
  | none =>
      simp only [outcome, Holds, Except.ok.injEq]
      exact eq_comm
  | some value => exact read_eq_ok_iff

theorem Holds.unique {other : setting.Content} (holds : setting.Holds host input content)
    (holdsToo : setting.Holds host input other) : content = other := by
  rw [← checked_eq_ok_iff] at holds holdsToo
  cases holds.symm.trans holdsToo
  rfl

theorem mem_paths_checked {path : List String} :
    path ∈ (problemsOf (setting.checked host input)).map Problem.path ↔
      path = setting.path ∧ ∃ value, input = some value ∧ ¬setting.Meets host value := by
  cases input with
  | none => simp [checked, outcome, problemsOf, Except.mapError]
  | some value =>
      simp only [Option.some_inj, exists_eq_left', ← read_eq_error_iff, checked, outcome]
      cases setting.read host value with
      | ok content => simp [problemsOf, Except.mapError]
      | error complaint => simp [problemsOf, Except.mapError]

theorem paths_checked_sublist (setting : Setting) (input : Option Value) :
    ((problemsOf (setting.checked host input)).map Problem.path).Sublist [setting.path] := by
  rw [checked]
  cases setting.outcome host input with
  | ok content => exact List.nil_sublist _
  | error complaint => exact List.Sublist.refl _

theorem paths_sublist (settings : List Setting) (input : Setting → Option Value) :
    (settings.flatMap fun setting =>
      (problemsOf (setting.checked host (input setting))).map Problem.path).Sublist
      (settings.map Setting.path) := by
  induction settings with
  | nil => exact List.Sublist.refl []
  | cons setting rest restSublist =>
      rw [List.flatMap_cons, List.map_cons]
      exact (setting.paths_checked_sublist (input setting)).append restSublist

end Setting

def reported (result : Except Failure Settings) : List (List String) :=
  match result with
  | .error (.invalid problems) => problems.map Problem.path
  | _ => []

/-- Each setting is loaded by itself: from its own effective input, and reported by itself. -/
structure LoadsBySetting (host : Host) (given : Entries) (environment : Environment) : Prop where
  succeeds_iff : (∃ settings, load host given environment = .ok settings) ↔
    ∀ (setting : Setting) value, setting.effective? host.room given environment = some value →
      setting.Meets host value
  holds : ∀ settings, load host given environment = .ok settings → ∀ setting : Setting,
    setting.Holds host (setting.effective? host.room given environment) (settings.held setting)
  refuses : (∃ setting : Setting, setting.Offends host given environment) →
    ∃ problems, load host given environment = .error (.invalid problems)
  reports_iff : ∀ path, path ∈ reported (load host given environment) ↔
    ∃ setting : Setting, path = setting.path ∧ setting.Offends host given environment
  reports_once : (reported (load host given environment)).Sublist (Setting.all.map Setting.path)
  apart : ∀ given' environment', Admissible host.room given' environment' → ∀ setting : Setting,
    setting.explicit? given' = setting.explicit? given →
    setting.own? environment' = setting.own? environment →
    setting.inSection? host.room environment' = setting.inSection? host.room environment →
    (setting.path ∈ reported (load host given' environment') ↔
      setting.path ∈ reported (load host given environment)) ∧
    ∀ settings settings', load host given environment = .ok settings →
      load host given' environment' = .ok settings' → settings'.held setting = settings.held setting

theorem load_eq_ok_iff (admissible : Admissible host.room given environment) {settings : Settings} :
    load host given environment = .ok settings ↔ ∀ setting : Setting, setting.Holds host
      (setting.effective? host.room given environment) (settings.held setting) := by
  rw [load_eq admissible, mapError_eq_ok_iff, assembled_eq_ok_iff]
  exact forall_congr' fun setting => Setting.checked_eq_ok_iff

theorem reported_load (admissible : Admissible host.room given environment) :
    reported (load host given environment) = Setting.all.flatMap fun setting =>
      (problemsOf (setting.checked host
        (setting.effective? host.room given environment))).map Problem.path := by
  rw [load_eq admissible, ← List.map_flatMap, ← problemsOf_assembled]
  cases assembled fun setting : Setting =>
      setting.checked host (setting.effective? host.room given environment) with
  | ok settings => rfl
  | error problems => rfl

theorem mem_reported_iff (admissible : Admissible host.room given environment)
    {path : List String} :
    path ∈ reported (load host given environment) ↔
      ∃ setting : Setting, path = setting.path ∧ setting.Offends host given environment := by
  rw [reported_load admissible, List.mem_flatMap]
  simp only [Setting.mem_all, true_and, Setting.mem_paths_checked, Setting.Offends]

theorem path_injective {setting other : Setting} (same : setting.path = other.path) :
    setting = other := by
  have apart : (Setting.all.map Setting.path).Nodup := by decide
  exact List.inj_on_of_nodup_map apart setting.mem_all other.mem_all same

theorem path_mem_reported_iff (admissible : Admissible host.room given environment)
    {setting : Setting} :
    setting.path ∈ reported (load host given environment) ↔
      setting.Offends host given environment := by
  rw [mem_reported_iff admissible]
  constructor
  · rintro ⟨other, same, offends⟩
    cases path_injective same
    exact offends
  · exact fun offends => ⟨setting, rfl, offends⟩

theorem exists_load_iff (admissible : Admissible host.room given environment) :
    (∃ settings, load host given environment = .ok settings) ↔
      ∀ (setting : Setting) value, setting.effective? host.room given environment = some value →
        setting.Meets host value := by
  constructor
  · rintro ⟨settings, loaded⟩ setting value isInput
    have holds := (load_eq_ok_iff admissible).mp loaded setting
    rw [isInput] at holds
    exact ⟨_, holds⟩
  · intro meets
    have each : ∀ setting : Setting, ∃ content,
        setting.Holds host (setting.effective? host.room given environment) content := by
      intro setting
      cases isInput : setting.effective? host.room given environment with
      | none => exact ⟨setting.default, rfl⟩
      | some value => exact meets setting value isInput
    refine ⟨ofContents fun setting => (each setting).choose, (load_eq_ok_iff admissible).mpr ?_⟩
    intro setting
    rw [held_ofContents]
    exact (each setting).choose_spec

def Host.refusing (room : Nat) : Host where
  room := room
  text := fun _ => .error .notText
  word := fun _ => .error .notAmongChoices
  integer := fun _ => .error .notInteger

end Settings

end InDoubt
