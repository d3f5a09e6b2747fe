import InDoubt.Binary64
import InDoubt.Branch.Triple
import InDoubt.Text.Quoted

/-!
The values that cross the boundary: whatever a store hands over as a row, a column or a failure, and
whatever a caller hands in where an identifier, an index or a setting is expected.
-/

namespace InDoubt

/-
An object without behaviour, a feed, a sealed value and a number that is none are equal to
themselves alone; the identity tells two of them apart. A feed yields its items and may fail after
them, a sealed value fails as soon as its items are asked for. A broken text holds what is no
character, a lone surrogate, so it is given by its code points; all other texts are whole.
-/
mutual

inductive Value where
  | null
  | bool (given : Bool)
  | int (given : Int)
  | derived (given : Int) (look : Look)
  | float (given : Binary64)
  | notANumber (identity : Nat)
  | text (given : String)
  | brokenText (codes : List Nat) (broken : codes.all Text.isCharacter = false)
  | bytes (given : List UInt8)
  | list (items : List Value)
  | tuple (items : List Value)
  | dict (entries : List (Value × Value))
  | slice (start stop step : Value)
  | object (identity : Nat) (className printed : String)
  | feed (identity : Nat) (className printed : String) (items : List Value)
      (failure : Option Fault)
  | sealed (identity : Nat) (className printed : String) (failure : Fault)
  | branch (triple : Triple)

inductive Fault where
  | raised (kind : FaultKind) (arguments : List Value) (cause : Option Fault)

end

instance : Inhabited Value := ⟨.null⟩

namespace Fault

def kind : Fault → FaultKind
  | .raised kind _ _ => kind

def arguments : Fault → List Value
  | .raised _ arguments _ => arguments

def cause : Fault → Option Fault
  | .raised _ _ cause => cause

def plain (kind : FaultKind) (message : String) : Fault :=
  .raised kind [.text message] none

@[simp] theorem kind_plain (kind : FaultKind) (message : String) :
    (plain kind message).kind = kind := rfl

@[simp] theorem cause_plain (kind : FaultKind) (message : String) :
    (plain kind message).cause = none := rfl

end Fault

namespace Value

def typeName : Value → String
  | .null => "NoneType"
  | .bool _ => "bool"
  | .int _ => "int"
  | .derived _ look => look.className
  | .float _ => "float"
  | .notANumber _ => "float"
  | .text _ => "str"
  | .brokenText _ _ => "str"
  | .bytes _ => "bytes"
  | .list _ => "list"
  | .tuple _ => "tuple"
  | .dict _ => "dict"
  | .slice _ _ _ => "slice"
  | .object _ className _ => className
  | .feed _ className _ _ _ => className
  | .sealed _ className _ _ => className
  | .branch _ => "Xid"

def isNull : Value → Bool
  | .null => true
  | _ => false

def codes? : Value → Option (List Nat)
  | .text given => some (Text.codes given)
  | .brokenText codes _ => some codes
  | _ => none

def isText (value : Value) : Bool := value.codes?.isSome

def ofCodes (codes : List Nat) : Value :=
  match whole : codes.all Text.isCharacter with
  | true => .text (String.ofList (codes.map Char.ofNat))
  | false => .brokenText codes whole

/-- Whether what the value counts as is up to a class that is not known here. -/
def isForeign : Value → Bool
  | .object _ _ _ | .feed _ _ _ _ _ | .sealed _ _ _ _ => true
  | _ => false

end Value

/-- Numbers as they are compared: truth values and numbers of derived classes count as integers. -/
inductive Number where
  | int (given : Int)
  | float (given : Binary64)
  | notANumber
  deriving DecidableEq, Repr

def Value.number? : Value → Option Number
  | .bool given => some (.int (if given then 1 else 0))
  | .int given => some (.int given)
  | .derived given _ => some (.int given)
  | .float given => some (.float given)
  | .notANumber _ => some .notANumber
  | _ => none

def Number.same : Number → Number → Bool
  | .int first, .int second => first == second
  | .int first, .float second => second.equalsInt first
  | .float first, .int second => first.equalsInt second
  | .float first, .float second => first.same second
  | _, _ => false

def Number.isNegative : Number → Bool
  | .int given => given < 0
  | .float given => given.isNegative
  | .notANumber => false

def Number.addInt : Number → Int → Number
  | .int given, whole => .int (given + whole)
  | .float given, whole => .float (given.addInt whole)
  | .notANumber, _ => .notANumber

def Value.isTruthy : Value → Bool
  | .null => false
  | .bool given => given
  | .int given | .derived given _ => given != 0
  | .float given => !given.equalsInt 0
  | .text given => !given.isEmpty
  | .bytes given => !given.isEmpty
  | .list items | .tuple items => !items.isEmpty
  | .dict entries => !entries.isEmpty
  | _ => true

end InDoubt
