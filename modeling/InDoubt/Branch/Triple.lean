import InDoubt.FaultKind

namespace InDoubt

/-- How a number of a derived class shows. The class decides about all of it: its printed form, its
text, what is inserted into messages, and the decimal form for flat texts, which it may refuse. What
is missing here has more digits than can be printed. The member of an enumeration also has the text
of the value that it stands for. -/
structure Look where
  className : String
  printed? : Option String
  text? : Option String
  inserted? : Option String
  decimal : Except (FaultKind × String) String
  memberText? : Option String

/-- A format number, plain or of a derived class. It is compared as a number either way. -/
structure FormatId where
  number : Nat
  look : Option Look

namespace FormatId

def decimal (formatId : FormatId) : Except (FaultKind × String) String :=
  match formatId.look with
  | none => .ok (String.ofList (Nat.toDigits 10 formatId.number))
  | some look => look.decimal

end FormatId

structure Triple where
  formatId : FormatId
  gtrid : String
  bqual : String

inductive Part where
  | gtrid
  | bqual
  deriving DecidableEq, Repr

namespace Part

def label : Part → String
  | .gtrid => "gtrid"
  | .bqual => "bqual"

def maxLength : Nat := 64

def admits (character : Char) : Bool :=
  0x20 ≤ character.toNat && character.toNat ≤ 0x7e

def admitsCode (code : Nat) : Bool := 0x20 ≤ code && code ≤ 0x7e

@[simp] theorem admitsCode_toNat (character : Char) :
    admitsCode character.toNat = admits character := rfl

def Valid (text : String) : Prop :=
  text.toList.length ≤ maxLength ∧ text.toList.all admits

instance (text : String) : Decidable (Valid text) :=
  inferInstanceAs (Decidable (_ ∧ _))

end Part

namespace Triple

def maxFormatId : Nat := 0x7fffffff

def Valid (triple : Triple) : Prop :=
  triple.formatId.number ≤ maxFormatId ∧ Part.Valid triple.gtrid ∧ Part.Valid triple.bqual

instance (triple : Triple) : Decidable triple.Valid :=
  inferInstanceAs (Decidable (_ ∧ _))

def same (first second : Triple) : Bool :=
  first.formatId.number == second.formatId.number &&
    first.gtrid == second.gtrid && first.bqual == second.bqual

end Triple

end InDoubt
