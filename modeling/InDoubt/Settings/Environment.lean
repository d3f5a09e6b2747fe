import InDoubt.Json.Reader
import InDoubt.Settings.Basic

/-!
Settings from the environment and from explicit values. A section can be given as JSON in a variable
of its own; variables of single settings are laid over it, and explicit values over both, key by
key.
-/

namespace InDoubt.Settings

abbrev Environment := List (String × String)

def lowercase (text : String) : String :=
  String.ofList (text.toList.map Char.toLower)

/-- Names of variables are compared without regard to case; of two that are equal the later wins. -/
def normalized (environment : Environment) : Environment :=
  environment.foldl (fun known (name, text) =>
    let name := lowercase name
    if known.any (·.1 == name) then
      known.map fun (other, old) => if other == name then (other, text) else (other, old)
    else known ++ [(name, text)]) []

def pathOf : List Char → List (List Char)
  | '_' :: '_' :: rest => [] :: pathOf rest
  | character :: rest =>
      match pathOf rest with
      | first :: others => (character :: first) :: others
      | [] => [[character]]
  | [] => [[]]

def place (entries : Entries) : List String → String → Entries
  | [], _ => entries
  | [name], text => Value.setEntry entries (.text name) (.text text)
  | name :: path, text =>
      match entry? entries name with
      | none => Value.setEntry entries (.text name) (.dict (place [] path text))
      | some (.dict inner) => Value.setEntry entries (.text name) (.dict (place inner path text))
      | some _ => entries

mutual

def overlaid (below : Value) : Value → Value
  | .dict entries =>
      match below with
      | .dict older => .dict (overlaidEntries older entries)
      | _ => .dict entries
  | value => value

def overlaidEntries (below : Entries) : List (Value × Value) → Entries
  | [] => below
  | (key, value) :: rest =>
      let older := (below.find? fun (known, _) => key.same known).map Prod.snd
      let laid := match older with
        | some old => overlaid old value
        | none => value
      overlaidEntries (Value.setEntry below key laid) rest

end

def exactKey (names : List String) : Value → Value
  | .text given => .text ((names.find? (· == lowercase given)).getD given)
  | key => key

/-- Settings under their exact names; of several spellings of one the last counts. -/
def withExactNames (names : List String) (entries : Entries) : Entries :=
  entries.foldl (fun named (key, value) => Value.setEntry named (exactKey names key) value) []

/-- Sections under their exact names; of several spellings of one the first counts. -/
def withExactSections (names : List String) (explicit : Entries) : Entries :=
  explicit.foldl (fun named (key, value) =>
    let exact := exactKey names key
    if named.any fun (known, _) => exact.same known then named else named ++ [(exact, value)]) []

inductive Failure where
  | unreadable
  | tooDeep
  | invalid (problems : List Problem)
  deriving DecidableEq, Repr

structure Section where
  name : String
  settingNames : List String

def recoverySection : Section := ⟨"recovery", ["statement"]⟩

def observabilitySection : Section :=
  ⟨"observability",
    ["log_level", "log_format", "metrics_port", "otel_endpoint", "otel_service_name"]⟩

namespace Section

def variableName (part : Section) : String := "xa_xid_" ++ part.name

def fromVariables (part : Section) (environment : Environment) : Entries :=
  let stem := (part.variableName ++ "__").toList
  environment.foldl (fun entries (name, text) =>
    match Json.after? stem name.toList with
    | some path => place entries ((pathOf path).map String.ofList) text
    | none => entries) []

def fromEnvironment (room : Nat) (part : Section) (environment : Environment) :
    Except Failure (Option Value) :=
  let single := part.fromVariables environment
  match environment.lookup part.variableName with
  | none =>
      .ok (if single.isEmpty then none
        else some (.dict (withExactNames part.settingNames single)))
  | some text =>
      match Json.read room text with
      | .error .malformed => .error .unreadable
      | .error .tooDeep => .error .tooDeep
      | .ok .null => .ok none
      | .ok (.dict entries) =>
          .ok (some (.dict (withExactNames part.settingNames (overlaidEntries entries single))))
      | .ok value => .ok (some value)

def input (room : Nat) (part : Section) (explicit : Entries) (environment : Environment) :
    Except Failure (Option Value) := do
  let below ← part.fromEnvironment room environment
  .ok (match entry? explicit part.name, below with
    | some value, some older => some (overlaid older value)
    | some value, none => some value
    | none, older => older)

def read {α : Type} (part : Section) (fallback : α) (readEntries : Entries → Checked α) :
    Option Value → Checked α
  | none => .ok fallback
  | some (.dict entries) =>
      (readEntries entries).mapError fun problems => problems.map (·.within part.name)
  | some _ => .error [⟨[part.name], .notSection⟩]

end Section

def unknownSections (explicit : Entries) : Checked Unit :=
  let problems := explicit.filterMap fun (key, _) => match key with
    | .text name =>
        if name = recoverySection.name || name = observabilitySection.name then none
        else some ⟨[name], .unknownSection⟩
    | _ => none
  if problems.isEmpty then .ok () else .error problems

def load (host : Host) (given : Entries) (environment : Environment) : Except Failure Settings := do
  let explicit := withExactSections [recoverySection.name, observabilitySection.name] given
  let environment := normalized environment
  let recoveryInput ← recoverySection.input host.room explicit environment
  let observabilityInput ← observabilitySection.input host.room explicit environment
  let recovery := recoverySection.read RecoverySettings.default (RecoverySettings.read host)
    recoveryInput
  let observability := observabilitySection.read ObservabilitySettings.default
    (ObservabilitySettings.read host) observabilityInput
  let settings := ((Checked.apply (.ok fun recovery observability (_ : Unit) =>
    (⟨recovery, observability⟩ : Settings)) recovery).apply observability).apply
      (unknownSections explicit)
  settings.mapError .invalid

end InDoubt.Settings
