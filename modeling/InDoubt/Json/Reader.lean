import InDoubt.Value.Equality
import InDoubt.Value.Printed

/-!
Reading JSON text into values. Besides standard JSON the words `NaN`, `Infinity` and `-Infinity` are
numbers, and a key that occurs again keeps its first place and takes the last value. A text that is
nested too deeply is refused where it gets too deep, whatever follows.
-/

namespace InDoubt.Json

def isBlank (character : Char) : Bool :=
  character = ' ' || character = '\t' || character = '\n' || character = '\r'

def skipBlanks (characters : List Char) : List Char := characters.dropWhile isBlank

def after? : List Char → List Char → Option (List Char)
  | [], rest => some rest
  | expected :: word, character :: rest =>
      if expected = character then after? word rest else none
  | _ :: _, [] => none

/-! ### Strings -/

def hexDigit? (character : Char) : Option Nat :=
  let code := character.toNat
  if 48 ≤ code ∧ code ≤ 57 then some (code - 48)
  else if 97 ≤ code ∧ code ≤ 102 then some (code - 87)
  else if 65 ≤ code ∧ code ≤ 70 then some (code - 55)
  else none

def hexNumber? (characters : List Char) : Option Nat :=
  characters.foldlM (fun number character => (hexDigit? character).map (16 * number + ·)) 0

def shortEscape? : Char → Option Char
  | '\x22' => some '\x22'
  | '\x5c' => some '\x5c'
  | '/' => some '/'
  | 'b' => some '\x08'
  | 'f' => some '\x0c'
  | 'n' => some '\n'
  | 'r' => some '\r'
  | 't' => some '\t'
  | _ => none

/-- The code units of a string up to its closing quote, and what follows it. Control characters must
be escaped. -/
def readUnits : List Char → Option (List Nat × List Char)
  | [] => none
  | '\x22' :: rest => some ([], rest)
  | '\x5c' :: 'u' :: first :: second :: third :: fourth :: rest => do
      let unit ← hexNumber? [first, second, third, fourth]
      let (units, remaining) ← readUnits rest
      some (unit :: units, remaining)
  | '\x5c' :: letter :: rest => do
      let character ← shortEscape? letter
      let (units, remaining) ← readUnits rest
      some (character.toNat :: units, remaining)
  | character :: rest =>
      if character.toNat < 0x20 then none
      else do
        let (units, remaining) ← readUnits rest
        some (character.toNat :: units, remaining)

def isHighSurrogate (unit : Nat) : Bool := 0xd800 ≤ unit && unit < 0xdc00

def isLowSurrogate (unit : Nat) : Bool := 0xdc00 ≤ unit && unit < 0xe000

def joinPairs : List Nat → List Nat
  | high :: low :: rest =>
      if isHighSurrogate high && isLowSurrogate low then
        (0x10000 + (high - 0xd800) * 0x400 + (low - 0xdc00)) :: joinPairs rest
      else high :: joinPairs (low :: rest)
  | units => units

def stringValue (units : List Nat) : Value := .ofCodes (joinPairs units)

/-! ### Numbers -/

def readFraction (characters : List Char) : List Char × List Char :=
  match characters with
  | '.' :: rest =>
      let digits := rest.takeWhile Char.isDigit
      if digits.isEmpty then ([], characters) else (digits, rest.dropWhile Char.isDigit)
  | _ => ([], characters)

def readExponent (characters : List Char) : Option Int × List Char :=
  match characters with
  | mark :: rest =>
      if mark = 'e' || mark = 'E' then
        let (negative, unsigned) := match rest with
          | '-' :: digits => (true, digits)
          | '+' :: digits => (false, digits)
          | digits => (false, digits)
        let digits := unsigned.takeWhile Char.isDigit
        let magnitude : Int := Nat.ofDigitChars 10 digits 0
        if digits.isEmpty then (none, characters)
        else (some (if negative then -magnitude else magnitude), unsigned.dropWhile Char.isDigit)
      else (none, characters)
  | [] => (none, characters)

def readNumber (negative : Bool) (characters : List Char) : Option (Value × List Char) :=
  let whole := match characters with
    | '0' :: _ => ['0']
    | _ => characters.takeWhile Char.isDigit
  if whole.isEmpty then none
  else
    let (fraction, afterFraction) := readFraction (characters.drop whole.length)
    let (exponent, remaining) := readExponent afterFraction
    let digits := Nat.ofDigitChars 10 (whole ++ fraction) 0
    if fraction.isEmpty && exponent.isNone then
      if maxPrintedDigits < whole.length then none
      else some (.int (if negative then -(digits : Int) else digits), remaining)
    else
      let power := exponent.getD 0 - fraction.length
      some (.float (.ofDecimal negative digits power), remaining)

/-! ### Values -/

def words : List (List Char × Value) := [
  ("null".toList, .null), ("true".toList, .bool true), ("false".toList, .bool false),
  ("NaN".toList, .notANumber 0), ("Infinity".toList, .float (.infinite false)),
  ("-Infinity".toList, .float (.infinite true))]

def readWord (characters : List Char) : Option (Value × List Char) :=
  words.findSome? fun (word, value) => (after? word characters).map fun rest => (value, rest)

inductive Refusal where
  | malformed
  | tooDeep
  deriving DecidableEq, Repr

def orMalformed {α : Type} (found : Option α) : Except Refusal α :=
  match found with
  | some value => .ok value
  | none => .error .malformed

mutual

/-- Reads a value at the front of a text. The fuel bounds the number of values and separators, and
the room how many arrays and objects may still be opened inside one another. -/
def readValue : Nat → Nat → List Char → Except Refusal (Value × List Char)
  | 0, _, _ => .error .malformed
  | fuel + 1, room, characters =>
      match characters with
      | '\x22' :: rest => do
          let (units, remaining) ← orMalformed (readUnits rest)
          .ok (stringValue units, remaining)
      | '[' :: rest =>
          match room with
          | 0 => .error .tooDeep
          | room + 1 =>
              match skipBlanks rest with
              | ']' :: remaining => .ok (.list [], remaining)
              | first => do
                  let (items, remaining) ← readItems fuel room first
                  .ok (.list items, remaining)
      | '\x7b' :: rest =>
          match room with
          | 0 => .error .tooDeep
          | room + 1 =>
              match skipBlanks rest with
              | '\x7d' :: remaining => .ok (.dict [], remaining)
              | first => do
                  let (entries, remaining) ← readEntries fuel room first
                  .ok (Value.dictOf entries, remaining)
      | _ =>
          match readWord characters with
          | some found => .ok found
          | none =>
              match characters with
              | '-' :: rest => orMalformed (readNumber true rest)
              | _ => orMalformed (readNumber false characters)

def readItems : Nat → Nat → List Char → Except Refusal (List Value × List Char)
  | 0, _, _ => .error .malformed
  | fuel + 1, room, characters => do
      let (item, remaining) ← readValue fuel room characters
      match skipBlanks remaining with
      | ',' :: rest => do
          let (items, remaining) ← readItems fuel room (skipBlanks rest)
          .ok (item :: items, remaining)
      | ']' :: rest => .ok ([item], rest)
      | _ => .error .malformed

def readEntries : Nat → Nat → List Char → Except Refusal (List (Value × Value) × List Char)
  | 0, _, _ => .error .malformed
  | fuel + 1, room, characters =>
      match characters with
      | '\x22' :: rest => do
          let (units, remaining) ← orMalformed (readUnits rest)
          match skipBlanks remaining with
          | ':' :: rest => do
              let (value, remaining) ← readValue fuel room (skipBlanks rest)
              let entry := (stringValue units, value)
              match skipBlanks remaining with
              | ',' :: rest => do
                  let (entries, remaining) ← readEntries fuel room (skipBlanks rest)
                  .ok (entry :: entries, remaining)
              | '\x7d' :: rest => .ok ([entry], rest)
              | _ => .error .malformed
          | _ => .error .malformed
      | _ => .error .malformed

end

def read (room : Nat) (text : String) : Except Refusal Value := do
  let characters := skipBlanks text.toList
  let (value, remaining) ← readValue (2 * characters.length + 1) room characters
  if (skipBlanks remaining).isEmpty then .ok value else .error .malformed

end InDoubt.Json
