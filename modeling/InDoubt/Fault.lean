import InDoubt.Branch.Flat
import InDoubt.Value.Equality
import InDoubt.Value.Printed

namespace InDoubt

def Value.text? : Value → Option (List Nat)
  | .text given => some (Text.codes given)
  | .brokenText codes _ => some codes
  | .derived _ look => look.text?.map Text.codes
  | .branch triple => (Flat.encode triple).toOption.map Text.codes
  | value => value.printed?.map Text.codes

namespace Fault

private def systemText? : List Value → Option (List Nat)
  | [number, reason] => numbered number reason
  | [number, reason, file] => onFile number reason file
  | [number, reason, file, _] => onFile number reason file
  | [number, reason, file, _, other] => do
      let first ← onFile number reason file
      if file.isNull || other.isNull then some first
      else some (first ++ Text.codes " -> " ++ Text.codes (← other.printed?))
  | arguments => (Value.tuple arguments).printed?.map Text.codes
where
  numbered (number reason : Value) : Option (List Nat) := do
    some (Text.codes "[Errno " ++ (← number.text?) ++ Text.codes "] " ++ (← reason.text?))
  onFile (number reason file : Value) : Option (List Nat) := do
    let first ← numbered number reason
    if file.isNull then some first
    else some (first ++ Text.codes ": " ++ Text.codes (← file.printed?))

def blockingKind : FaultKind := .system "BlockingIOError"

private def wordedArguments (kind : FaultKind) (arguments : List Value) : List Value :=
  match arguments with
  | number :: reason :: third :: more =>
      if kind = blockingKind && third.number?.isSome && more.length ≤ 2 then [number, reason]
      else arguments
  | _ => arguments

/-- The wording of a fault: nothing without arguments, the text of a single one, the printed form of
several. A missing key is shown in its printed form. -/
def text? (fault : Fault) : Option (List Nat) :=
  match fault.kind, fault.arguments with
  | _, [] => some []
  | .missingKey, [key] => key.printed?.map Text.codes
  | _, [only] => only.text?
  | .system name, arguments => systemText? (wordedArguments (.system name) arguments)
  | _, arguments => (Value.tuple arguments).printed?.map Text.codes

@[simp] theorem text?_plain (kind : FaultKind) (message : String) (other : kind ≠ .missingKey) :
    (plain kind message).text? = some (Text.codes message) := by
  cases kind <;> simp_all [text?, plain, Fault.kind, Fault.arguments, Value.text?]

private def systemKinds : List (Int × String) := [
  (1, "PermissionError"), (2, "FileNotFoundError"), (3, "ProcessLookupError"),
  (4, "InterruptedError"), (10, "ChildProcessError"), (11, "BlockingIOError"),
  (13, "PermissionError"), (17, "FileExistsError"), (20, "NotADirectoryError"),
  (21, "IsADirectoryError"), (32, "BrokenPipeError"), (103, "ConnectionAbortedError"),
  (104, "ConnectionResetError"), (108, "BrokenPipeError"), (110, "TimeoutError"),
  (111, "ConnectionRefusedError"), (114, "BlockingIOError"), (115, "BlockingIOError")]

def generalSystemKind : FaultKind := .system "OSError"

/-- The kind that a general fault of the operating system takes from its arguments: a number with a
reason, and at most three more. -/
private def systemKind (arguments : List Value) : FaultKind :=
  match arguments with
  | number :: _ :: more =>
      match number.number? with
      | some (.int code) =>
          if more.length ≤ 3 then
            ((systemKinds.lookup code).map FaultKind.system).getD generalSystemKind
          else generalSystemKind
      | _ => generalSystemKind
  | _ => generalSystemKind

private def countFault? (count : Value) : Option Fault :=
  match count.number? with
  | some (.int given) =>
      if -0x8000000000000000 ≤ given ∧ given < 0x8000000000000000 then none
      else some (plain .wrongValue
        ("cannot fit '" ++ count.typeName ++ "' into an index-sized integer"))
  | some _ =>
      some (plain .wrongType
        ("'" ++ count.typeName ++ "' object cannot be interpreted as an integer"))
  | none => none

def make (kind : FaultKind) (arguments : List Value) : Except Fault Fault :=
  let kind := if kind = generalSystemKind then systemKind arguments else kind
  let refused := match arguments with
    | _ :: _ :: third :: more =>
        if kind = blockingKind && more.length ≤ 2 then countFault? third else none
    | _ => none
  match refused with
  | some reason => .error reason
  | none => .ok (.raised kind arguments none)

def digitLimit : Fault :=
  plain .wrongValue
    ("Exceeds the limit (4300 digits) for integer string conversion; " ++
      "use sys.set_int_max_str_digits() to increase the limit")

def placed (place : String) (text : List Nat) : List Nat := Text.codes (place ++ ": ") ++ text

def wrap (place : String) (fault : Fault) : Fault :=
  match fault.text? with
  | some text => .raised .resource [.ofCodes (placed place text)] (some fault)
  | none => digitLimit

def wrapOrdinary (place : String) (fault : Fault) : Fault :=
  if fault.kind.isOrdinary then fault.wrap place else fault

theorem wrapOrdinary_of_interrupt {fault : Fault} (interrupt : fault.kind = .interrupt)
    (place : String) : fault.wrapOrdinary place = fault := by
  rw [wrapOrdinary, interrupt]
  rfl

theorem wrapOrdinary_of_text {fault : Fault} {text : List Nat}
    (ordinary : fault.kind ≠ .interrupt) (worded : fault.text? = some text) (place : String) :
    fault.wrapOrdinary place =
      .raised .resource [.ofCodes (placed place text)] (some fault) := by
  rw [wrapOrdinary, if_pos (by simpa [FaultKind.isOrdinary] using ordinary), wrap, worded]

theorem wrapOrdinary_of_unworded {fault : Fault} (ordinary : fault.kind ≠ .interrupt)
    (unworded : fault.text? = none) (place : String) : fault.wrapOrdinary place = digitLimit := by
  rw [wrapOrdinary, if_pos (by simpa [FaultKind.isOrdinary] using ordinary), wrap, unworded]

def notIterable (value : Value) : Fault :=
  plain .wrongType ("'" ++ value.typeName ++ "' object is not iterable")

def unhashable (typeName : String) : Fault :=
  plain .wrongType ("unhashable type: '" ++ typeName ++ "'")

end Fault

def Base64.Refusal.kind : Base64.Refusal → FaultKind
  | .foreignText => .unicode
  | .foreignSpelling => .wrongValue
  | .malformed => .wrongValue
  | .foreignContent => .unicode

def Base64.Refusal.fault (refusal : Base64.Refusal) : Fault := .raised refusal.kind [] none

def Flat.Unwritable.fault : Flat.Unwritable → Fault
  | .number kind message => .plain kind message
  | .component cause => cause.fault

def Value.asKey (value : Value) : Except Fault Value :=
  match value.hash with
  | .ok _ => .ok value
  | .error typeName => .error (.unhashable typeName)

end InDoubt
