import InDoubt.Settings.Environment

namespace InDoubt.Settings

structure Ambient where
  environment : Environment
  kept : Option Settings

namespace Ambient

def start (environment : Environment) : Ambient := ⟨environment, none⟩

def withEnvironment (ambient : Ambient) (environment : Environment) : Ambient :=
  { ambient with environment := environment }

def forget (ambient : Ambient) : Ambient := { ambient with kept := none }

def get (host : Host) (ambient : Ambient) : Except Failure Settings × Ambient :=
  match ambient.kept with
  | some settings => (.ok settings, ambient)
  | none =>
      match load host [] ambient.environment with
      | .ok settings => (.ok settings, { ambient with kept := some settings })
      | .error failure => (.error failure, ambient)

def recoverySettings (host : Host) (ambient : Ambient) :
    Option RecoverySettings → Except Failure RecoverySettings × Ambient
  | some given => (.ok given, ambient)
  | none =>
      let (settings, after) := ambient.get host
      (settings.map Settings.recovery, after)

end Ambient

end InDoubt.Settings
