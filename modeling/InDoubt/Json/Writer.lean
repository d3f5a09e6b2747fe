import InDoubt.Text.Quoted
import InDoubt.Value.Printed

namespace InDoubt.Json

private def unit (code : Nat) : List Char := '\x5c' :: 'u' :: Text.hexDigits 4 code

def escapedCharacter (character : Char) : List Char :=
  let code := character.toNat
  if character = '\x22' ∨ character = '\x5c' then ['\x5c', character]
  else if character = '\n' then ['\x5c', 'n']
  else if character = '\r' then ['\x5c', 'r']
  else if character = '\t' then ['\x5c', 't']
  else if character = '\x08' then ['\x5c', 'b']
  else if character = '\x0c' then ['\x5c', 'f']
  else if 0x20 ≤ code ∧ code ≤ 0x7e then [character]
  else if code < 0x10000 then unit code
  else
    unit (0xd800 + (code - 0x10000) / 0x400) ++ unit (0xdc00 + (code - 0x10000) % 0x400)

def escapedCode (code : Nat) : List Char :=
  if Text.isSurrogate code then unit code else escapedCharacter (Char.ofNat code)

def writtenCodes (codes : List Nat) : String :=
  String.ofList ('\x22' :: (codes.flatMap escapedCode ++ ['\x22']))

def writtenText (text : String) : String := writtenCodes (Text.codes text)

def writtenFloat : Binary64 → String
  | .infinite negative => if negative then "-Infinity" else "Infinity"
  | number => number.written

def keyText? : Value → Option String
  | .text given => some (writtenText given)
  | .brokenText codes _ => some (writtenCodes codes)
  | key => (plainKey? key).map writtenText
where
  plainKey? : Value → Option String
  | .null => some "null"
  | .bool given => some (if given then "true" else "false")
  | .int given | .derived given _ => printedInt? given
  | .float given => some (writtenFloat given)
  | .notANumber _ => some "NaN"
  | _ => none

mutual

def write? : Value → Option String
  | .null => some "null"
  | .bool given => some (if given then "true" else "false")
  | .int given => printedInt? given
  | .derived given _ => printedInt? given
  | .float given => some (writtenFloat given)
  | .notANumber _ => some "NaN"
  | .text given => some (writtenText given)
  | .brokenText codes _ => some (writtenCodes codes)
  | .list items => (writeItems? items).map fun parts => "[" ++ commaSeparated parts ++ "]"
  | .tuple items => (writeItems? items).map fun parts => "[" ++ commaSeparated parts ++ "]"
  | .dict entries =>
      (writeEntries? entries).map fun parts => "\x7b" ++ commaSeparated parts ++ "\x7d"
  | value => value.printed?.map writtenText

def writeItems? : List Value → Option (List String)
  | [] => some []
  | item :: rest => do
      let part ← write? item
      let parts ← writeItems? rest
      some (part :: parts)

def writeEntries? : List (Value × Value) → Option (List String)
  | [] => some []
  | (key, value) :: rest => do
      let keyPart ← keyText? key
      let valuePart ← write? value
      let parts ← writeEntries? rest
      some ((keyPart ++ ": " ++ valuePart) :: parts)

end

end InDoubt.Json
