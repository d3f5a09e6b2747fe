import InDoubt.Fault
import InDoubt.Observation.Event
import InDoubt.Settings.Reading

namespace InDoubt

structure RecoverySettings where
  statement : String
  deriving DecidableEq, Repr

inductive LogFormat where
  | json
  | console
  deriving DecidableEq, Repr

structure ObservabilitySettings where
  logLevel : Level
  logFormat : LogFormat
  metricsPort : Nat
  otelEndpoint : Option Settings.GivenText
  otelServiceName : Settings.GivenText
  deriving DecidableEq, Repr

structure Settings where
  recovery : RecoverySettings
  observability : ObservabilitySettings
  deriving DecidableEq, Repr

structure Problem where
  path : List String
  complaint : Settings.Complaint
  deriving DecidableEq, Repr

def Problem.within (outer : String) (problem : Problem) : Problem :=
  { problem with path := outer :: problem.path }

namespace Settings

abbrev Entries := List (Value × Value)

def named : Value → Except Fault Entries
  | .dict entries =>
      if entries.all (·.1.isText) then .ok entries
      else .error (.plain .wrongType "keywords must be strings")
  | given =>
      .error (.plain .wrongType
        ("argument after ** must be a mapping, not " ++ given.typeName))

def entry? (entries : Entries) (name : String) : Option Value :=
  (entries.find? fun (key, _) => (Value.text name).same key).map Prod.snd

abbrev Checked (α : Type) := Except (List Problem) α

def setting {α : Type} (entries : Entries) (name : String) (fallback : α)
    (read : Value → Except Complaint α) : Checked α :=
  match entry? entries name with
  | none => .ok fallback
  | some value => (read value).mapError fun complaint => [⟨[name], complaint⟩]

def Checked.apply {α β : Type} (function : Checked (α → β)) (argument : Checked α) : Checked β :=
  match function, argument with
  | .ok apply, .ok value => .ok (apply value)
  | .ok _, .error problems => .error problems
  | .error problems, .ok _ => .error problems
  | .error problems, .error more => .error (problems ++ more)

end Settings

namespace RecoverySettings

def defaultStatement : String := "SELECT gid, prepared, owner, database FROM pg_prepared_xacts;"

def default : RecoverySettings := ⟨defaultStatement⟩

def read (host : Settings.Host) (entries : Settings.Entries) : Settings.Checked RecoverySettings :=
  (Settings.setting entries "statement" defaultStatement (Settings.readNonemptyText host)).map mk

end RecoverySettings

namespace ObservabilitySettings

def default : ObservabilitySettings := ⟨.info, .json, 8001, none, .whole "xa_xid"⟩

def levels : List (String × Level) := [
  ("DEBUG", .debug), ("INFO", .info), ("WARNING", .warning), ("ERROR", .error),
  ("CRITICAL", .critical)]

def formats : List (String × LogFormat) := [("json", .json), ("console", .console)]

def read (host : Settings.Host) (entries : Settings.Entries) :
    Settings.Checked ObservabilitySettings :=
  let logLevel := Settings.setting entries "log_level" default.logLevel
    (Settings.readChoice host levels)
  let logFormat := Settings.setting entries "log_format" default.logFormat
    (Settings.readChoice host formats)
  let metricsPort := Settings.setting entries "metrics_port" default.metricsPort
    (Settings.readPort host)
  let otelEndpoint := Settings.setting entries "otel_endpoint" default.otelEndpoint
    (Settings.readOptionalText host)
  let otelServiceName := Settings.setting entries "otel_service_name" default.otelServiceName
    (Settings.readGivenText host)
  ((((Settings.Checked.apply (.ok mk) logLevel).apply logFormat).apply metricsPort).apply
    otelEndpoint).apply otelServiceName

end ObservabilitySettings

end InDoubt
