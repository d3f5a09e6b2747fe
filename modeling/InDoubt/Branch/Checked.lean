import InDoubt.Fault

namespace InDoubt.Triple

inductive Refusal where
  | formatType (given : Value)
  | formatRange (given : Value)
  | partType (part : Part) (given : Value)
  | partLength (part : Part) (length : Nat)
  | partCharacter (part : Part) (code : Nat)

def hexadecimal (code : Nat) : String :=
  let digits := Nat.toDigits 16 code
  String.ofList ('0' :: 'x' :: (List.replicate (2 - digits.length) '0' ++ digits))

def rangeFault : Option String → Fault
  | some number =>
      .plain .invalid
        ("format_id out of range: must be a non-negative 32-bit integer, got " ++ number)
  | none => .digitLimit

def Refusal.fault : Refusal → Fault
  | .formatType given =>
      .plain .wrongType ("format_id must be an integer, got " ++ given.typeName)
  | .formatRange given => rangeFault given.inserted?
  | .partType part given =>
      .plain .wrongType (part.label ++ " must be a string, got " ++ given.typeName)
  | .partLength part length =>
      .plain .invalid
        (part.label ++ " too long: at most " ++ Nat.repr Part.maxLength ++
          " characters allowed, got " ++ Nat.repr length)
  | .partCharacter part code =>
      .plain .invalid
        (part.label ++ " not printable: character " ++ hexadecimal code ++
          " is outside 0x20-0x7e")

def checkRange (given : Value) (number : Int) (look : Option Look) : Except Refusal FormatId :=
  if 0 ≤ number ∧ number ≤ maxFormatId then .ok ⟨number.toNat, look⟩
  else .error (.formatRange given)

def checkFormatId : Value → Except Refusal FormatId
  | .int number => checkRange (.int number) number none
  | .derived number look => checkRange (.derived number look) number (some look)
  | given => .error (.formatType given)

/-- The characters of a component; code points that are all admitted are characters. -/
def checkCodes (part : Part) (codes : List Nat) : Except Refusal (List Char) :=
  if Part.maxLength < codes.length then .error (.partLength part codes.length)
  else
    match codes.find? fun code => !Part.admitsCode code with
    | some code => .error (.partCharacter part code)
    | none => .ok (codes.map Char.ofNat)

def checkPart (part : Part) (given : Value) : Except Refusal String :=
  match given.codes? with
  | some codes => (checkCodes part codes).map String.ofList
  | none => .error (.partType part given)

def ofValues (formatId gtrid bqual : Value) : Except Refusal Triple := do
  let formatId ← checkFormatId formatId
  let gtrid ← checkPart .gtrid gtrid
  let bqual ← checkPart .bqual bqual
  .ok ⟨formatId, gtrid, bqual⟩

end InDoubt.Triple
