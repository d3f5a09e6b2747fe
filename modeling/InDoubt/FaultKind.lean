namespace InDoubt

inductive FaultKind where
  | interrupt
  | exhausted
  | resource
  | memory
  | wrongType
  | wrongValue
  | unicode
  | invalid
  | unreadableSetting
  | missingKey
  | outOfRange
  | frozen
  | duplicateSeries
  | system (name : String)
  | other (name : String)
  deriving DecidableEq, Repr

namespace FaultKind

def name : FaultKind → String
  | .interrupt => "KeyboardInterrupt"
  | .exhausted => "StopIteration"
  | .resource => "ResourceError"
  | .memory => "MemoryError"
  | .wrongType => "TypeError"
  | .wrongValue => "ValueError"
  | .unicode => "UnicodeError"
  | .invalid => "ValidationError"
  | .unreadableSetting => "SettingsError"
  | .missingKey => "KeyError"
  | .outOfRange => "IndexError"
  | .frozen => "FrozenInstanceError"
  | .duplicateSeries => "DuplicateTimeseries"
  | .system name => name
  | .other name => name

def isOrdinary (kind : FaultKind) : Bool := kind != .interrupt

/-- The kinds that are caught as wrong values. Any `other` kind is an ordinary one, and neither a
wrong type nor a wrong value. -/
def isWrongValue : FaultKind → Bool
  | .wrongValue | .unicode | .invalid | .unreadableSetting => true
  | _ => false

end FaultKind

end InDoubt
