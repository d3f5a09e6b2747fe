import InDoubt.Text.Printable

namespace InDoubt.Text

def apostrophe : Char := '\x27'

def doubleQuote : Char := '\x22'

def backslash : Char := '\x5c'

/-- The apostrophe, unless it occurs in the text and the double quote does not. -/
def quoteFor (characters : List Char) : Char :=
  if characters.contains apostrophe && !characters.contains doubleQuote then doubleQuote
  else apostrophe

def hexDigits : Nat → Nat → List Char
  | 0, _ => []
  | width + 1, number => hexDigits width (number / 16) ++ [Nat.digitChar (number % 16)]

@[simp] theorem length_hexDigits (width number : Nat) :
    (hexDigits width number).length = width := by
  induction width generalizing number with
  | zero => rfl
  | succ width shorter => simp [hexDigits, shorter]

def escaped (shown : Char → Bool) (quote character : Char) : List Char :=
  let code := character.toNat
  if character = quote ∨ character = backslash then [backslash, character]
  else if character = '\t' then [backslash, 't']
  else if character = '\n' then [backslash, 'n']
  else if character = '\r' then [backslash, 'r']
  else if shown character then [character]
  else if code < 0x100 then backslash :: 'x' :: hexDigits 2 code
  else if code < 0x10000 then backslash :: 'u' :: hexDigits 4 code
  else backslash :: 'U' :: hexDigits 8 code

def enclosed (shown : Char → Bool) (characters : List Char) : List Char :=
  let quote := quoteFor characters
  quote :: (characters.flatMap (escaped shown quote) ++ [quote])

def quoted (text : String) : String :=
  String.ofList (enclosed isPrintable text.toList)

def isSurrogate (code : Nat) : Bool := 0xd800 ≤ code && code < 0xe000

def isCharacter (code : Nat) : Bool := !isSurrogate code && code < 0x110000

abbrev codes (text : String) : List Nat := text.toList.map Char.toNat

def quotedCodes (codes : List Nat) : String :=
  let quote := quoteFor ((codes.filter (!isSurrogate ·)).map Char.ofNat)
  let shown := fun (code : Nat) =>
    if isSurrogate code then backslash :: 'u' :: hexDigits 4 code
    else escaped isPrintable quote (Char.ofNat code)
  String.ofList (quote :: (codes.flatMap shown ++ [quote]))

def isPlainAscii (character : Char) : Bool :=
  0x20 ≤ character.toNat && character.toNat ≤ 0x7e

def quotedBytes (bytes : List UInt8) : String :=
  String.ofList ('b' :: enclosed isPlainAscii (bytes.map fun byte => Char.ofNat byte.toNat))

end InDoubt.Text
