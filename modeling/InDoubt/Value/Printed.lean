import InDoubt.Text.Quoted
import InDoubt.Value

namespace InDoubt

def maxPrintedDigits : Nat := 4300

def printedInt? (number : Int) : Option String :=
  if number.natAbs < Binary64.tenTo maxPrintedDigits then
    let digits := Nat.toDigits 10 number.natAbs
    some (String.ofList (if number < 0 then '-' :: digits else digits))
  else none

def commaSeparated (parts : List String) : String := ", ".intercalate parts

def Look.ofMember (className memberName : String) (number : Int) : Look where
  className := className
  printed? := (printedInt? number).map fun digits =>
    "<" ++ className ++ "." ++ memberName ++ ": " ++ digits ++ ">"
  text? := printedInt? number
  inserted? := printedInt? number
  decimal := .ok number.repr
  memberText? := printedInt? number

/-- The look of the member of an enumeration that takes its numbers from the integers and shows it
by name, which has no decimal form. -/
def Look.ofNamed (className memberName : String) (number : Int) : Look where
  className := className
  printed? := (printedInt? number).map fun digits =>
    "<" ++ className ++ "." ++ memberName ++ ": " ++ digits ++ ">"
  text? := some (className ++ "." ++ memberName)
  inserted? := some (className ++ "." ++ memberName)
  decimal := .error (.wrongValue, "Unknown format code 'd' for object of type 'str'")
  memberText? := printedInt? number

def FormatId.printed? (formatId : FormatId) : Option String :=
  match formatId.look with
  | none => printedInt? formatId.number
  | some look => look.printed?

def Triple.printed? (triple : Triple) : Option String := do
  let parts := [← triple.formatId.printed?, Text.quoted triple.gtrid, Text.quoted triple.bqual]
  some ("Xid(" ++ commaSeparated parts ++ ")")

namespace Value

mutual

def printed? : Value → Option String
  | .null => some "None"
  | .bool given => some (if given then "True" else "False")
  | .int given => printedInt? given
  | .derived _ look => look.printed?
  | .float given => some given.written
  | .notANumber _ => some "nan"
  | .text given => some (Text.quoted given)
  | .brokenText codes _ => some (Text.quotedCodes codes)
  | .bytes given => some (Text.quotedBytes given)
  | .list items => (printedItems? items).map fun parts => "[" ++ commaSeparated parts ++ "]"
  | .tuple items =>
      (printedItems? items).map fun parts =>
        match parts with
        | [only] => "(" ++ only ++ ",)"
        | _ => "(" ++ commaSeparated parts ++ ")"
  | .dict entries =>
      (printedEntries? entries).map fun parts => "\x7b" ++ commaSeparated parts ++ "\x7d"
  | .slice start stop step => do
      let parts := [← printed? start, ← printed? stop, ← printed? step]
      some ("slice(" ++ commaSeparated parts ++ ")")
  | .object _ _ printed => some printed
  | .feed _ _ printed _ _ => some printed
  | .sealed _ _ printed _ => some printed
  | .branch triple => triple.printed?

def printedItems? : List Value → Option (List String)
  | [] => some []
  | item :: rest => do
      let part ← printed? item
      let parts ← printedItems? rest
      some (part :: parts)

def printedEntries? : List (Value × Value) → Option (List String)
  | [] => some []
  | (key, value) :: rest => do
      let keyPart ← printed? key
      let valuePart ← printed? value
      let parts ← printedEntries? rest
      some ((keyPart ++ ": " ++ valuePart) :: parts)

end

def inserted? : Value → Option String
  | .derived _ look => look.inserted?
  | value => value.printed?

theorem inserted?_int (number : Int) : (int number).inserted? = printedInt? number := by
  simp [inserted?, printed?]

end Value

end InDoubt
