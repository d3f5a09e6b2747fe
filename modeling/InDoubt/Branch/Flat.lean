import InDoubt.Base64
import InDoubt.Branch.Triple
import InDoubt.Text.Pattern

namespace InDoubt.Flat

def separator : Char := '_'

def fields : List Char → List (List Char)
  | [] => [[]]
  | character :: rest =>
      if character = separator then [] :: fields rest
      else
        match fields rest with
        | first :: others => (character :: first) :: others
        | [] => [[character]]

structure Shape where
  digits : List Char
  gtrid : List Char
  bqual : List Char
  deriving DecidableEq, Repr

def shape? (characters : List Char) : Option Shape :=
  match fields characters with
  | [digits, gtrid, bqual] =>
      if !digits.isEmpty && digits.all Char.isDigit then some ⟨digits, gtrid, bqual⟩ else none
  | _ => none

/-- The shape as a pattern, `^([0-9]+)_([^_]*)_([^_]*)$`. -/
def pattern : Text.Pattern :=
  let underscore := Text.CharacterSet.only separator.toNat
  let part := Text.Pattern.repeated 0 (.allBut separator.toNat)
  .sequence .start <| .sequence (.group 1 (.repeated 1 .asciiDigits)) <|
    .sequence (.character underscore) <| .sequence (.group 2 part) <|
      .sequence (.character underscore) <| .sequence (.group 3 part) .ending

def Shape.join (shape : Shape) : List Char :=
  shape.digits ++ separator :: (shape.gtrid ++ separator :: shape.bqual)

/-- The canonical shape, with the number in decimal digits whatever class it is of. -/
def Shape.ofTriple (triple : Triple) : Shape := {
  digits := Nat.toDigits 10 triple.formatId.number
  gtrid := Base64.ofAscii triple.gtrid.toList
  bqual := Base64.ofAscii triple.bqual.toList }

def characters (triple : Triple) : List Char := (Shape.ofTriple triple).join

def write (triple : Triple) : String := String.ofList (characters triple)

inductive Unwritable where
  | number (kind : FaultKind) (message : String)
  | component (cause : Base64.Refusal)

/-- Writes a triple. The decimal form of the number is the one that its class gives, so this is the
canonical text only if the class writes digits. -/
def encode (triple : Triple) : Except Unwritable String := do
  let number ← triple.formatId.decimal.mapError fun (kind, message) => .number kind message
  let gtrid ← (Base64.encodeText triple.gtrid).mapError .component
  let bqual ← (Base64.encodeText triple.bqual).mapError .component
  .ok (String.ofList (Shape.join {
    digits := number.toList
    gtrid := gtrid.toList
    bqual := bqual.toList }))

def IsFlat (text : String) : Prop := ∃ triple : Triple, triple.Valid ∧ write triple = text

end InDoubt.Flat
