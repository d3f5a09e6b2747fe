import InDoubt.Branch.Checked

namespace InDoubt.Flat

inductive Refusal where
  | component (part : Part) (cause : Base64.Refusal)
  | tooManyDigits (count : Nat)
  | triple (cause : Triple.Refusal)

def Refusal.fault : Refusal → Fault
  | .component _ cause => cause.fault
  | .tooManyDigits count =>
      .plain .wrongValue
        ("Exceeds the limit (4300 digits) for integer string conversion: value has " ++
          Nat.repr count ++ " digits; use sys.set_int_max_str_digits() to increase the limit")
  | .triple cause => cause.fault

namespace Shape

def field (shape : Shape) : Part → List Char
  | .gtrid => shape.gtrid
  | .bqual => shape.bqual

def component (shape : Shape) (part : Part) : Except Refusal String :=
  match Base64.decodeAscii (shape.field part) with
  | .ok content => .ok (String.ofList content)
  | .error cause => .error (.component part cause)

def number (shape : Shape) : Except Refusal Nat :=
  if maxPrintedDigits < shape.digits.length then .error (.tooManyDigits shape.digits.length)
  else .ok (Nat.ofDigitChars 10 shape.digits 0)

def triple (shape : Shape) : Except Refusal Triple := do
  let gtrid ← shape.component .gtrid
  let bqual ← shape.component .bqual
  let number ← shape.number
  (Triple.ofValues (.int number) (.text gtrid) (.text bqual)).mapError .triple

end Shape

/-- Reads a flat text. Another spelling of a valid triple, with leading zeros or stray padding, is
passed over, since it would not be written back as it was. -/
def parse (text : String) : Except Fault (Option Triple) :=
  match shape? text.toList with
  | none => .ok none
  | some shape =>
      match shape.triple with
      | .error refusal =>
          if refusal.fault.kind.isWrongValue then .ok none else .error refusal.fault
      | .ok triple =>
          match encode triple with
          | .error refusal => .error refusal.fault
          | .ok written => .ok (if written = text then some triple else none)

end InDoubt.Flat
