import InDoubt.Recovery.Trip
import InDoubt.Settings.Ambient

namespace InDoubt

structure Service where
  settings : RecoverySettings
  deriving DecidableEq, Repr

namespace Service

def make (host : Settings.Host) (ambient : Settings.Ambient) (given : Option RecoverySettings) :
    Except Settings.Failure Service × Settings.Ambient :=
  let (settings, after) := ambient.recoverySettings host given
  (settings.map mk, after)

def statement (service : Service) : String := service.settings.statement

def recover (service : Service) (source : Source) : Trip :=
  InDoubt.recover source service.statement

end Service

def recoverThrough (host : Settings.Host) (ambient : Settings.Ambient)
    (given : Option RecoverySettings) (connection : Connection) :
    Except Settings.Failure Trip × Settings.Ambient :=
  let (service, after) := Service.make host ambient given
  (service.map (·.recover (.database connection)), after)

structure Process where
  ambient : Settings.Ambient
  services : List Service

namespace Process

def start (environment : Settings.Environment) : Process := ⟨.start environment, []⟩

inductive Request where
  | change (environment : Settings.Environment)
  | read
  | serve (given : Option RecoverySettings)
  | recover (position : Nat) (source : Source)
  | recoverThrough (given : Option RecoverySettings) (connection : Connection)

inductive Answer where
  | done
  | refused (failure : Settings.Failure)
  | settings (found : Settings)
  | service (made : Service)
  | trip (made : Trip)
  | noService

namespace Answer

def ofResult {α : Type} (answer : α → Answer) : Except Settings.Failure α → Answer
  | .ok found => answer found
  | .error failure => .refused failure

end Answer

def step (host : Settings.Host) (process : Process) : Request → Answer × Process
  | .change environment =>
      (.done, { process with ambient := process.ambient.withEnvironment environment })
  | .read =>
      let (found, ambient) := process.ambient.get host
      (.ofResult .settings found, { process with ambient })
  | .serve given =>
      let (made, ambient) := Service.make host process.ambient given
      (.ofResult .service made, ⟨ambient, process.services ++ made.toOption.toList⟩)
  | .recover position source =>
      match process.services[position]? with
      | some service => (.trip (service.recover source), process)
      | none => (.noService, process)
  | .recoverThrough given connection =>
      let (made, ambient) := InDoubt.recoverThrough host process.ambient given connection
      (.ofResult .trip made, { process with ambient })

def answer (host : Settings.Host) (process : Process) (request : Request) : Answer :=
  (process.step host request).1

def after (host : Settings.Host) (process : Process) (request : Request) : Process :=
  (process.step host request).2

def run (host : Settings.Host) (process : Process) (requests : List Request) : Process :=
  requests.foldl (after host) process

end Process

end InDoubt
