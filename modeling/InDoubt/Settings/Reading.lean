import InDoubt.Value.Equality
import InDoubt.Value.Printed

namespace InDoubt.Settings

def utf8Text? (bytes : List UInt8) : Option String :=
  String.fromUTF8? ⟨bytes.toArray⟩

inductive Complaint where
  | notText
  | notUnicode
  | tooShort
  | notAmongChoices
  | notInteger
  | notIntegerText
  | integerTooLong
  | notWhole
  | notFinite
  | tooSmall
  | tooLarge
  | notSection
  | unknownSection
  deriving DecidableEq, Repr

def Complaint.label : Complaint → String
  | .notText => "string_type"
  | .notUnicode => "string_unicode"
  | .tooShort => "string_too_short"
  | .notAmongChoices => "literal_error"
  | .notInteger => "int_type"
  | .notIntegerText => "int_parsing"
  | .integerTooLong => "int_parsing_size"
  | .notWhole => "int_from_float"
  | .notFinite => "finite_number"
  | .tooSmall => "greater_than_equal"
  | .tooLarge => "less_than_equal"
  | .notSection => "model_type"
  | .unknownSection => "extra_forbidden"

inductive GivenText where
  | whole (text : String)
  | broken (codes : List Nat)
  deriving DecidableEq, Repr

def GivenText.isEmpty : GivenText → Bool
  | .whole text => text.isEmpty
  | .broken codes => codes.isEmpty

/-- What is decided outside: how deep JSON texts may be nested, and what values of classes that are
not known here count as where a text, one of some words or an integer is expected. -/
structure Host where
  room : Nat
  text : Value → Except Complaint GivenText
  word : Value → Except Complaint String
  integer : Value → Except Complaint Int

variable (host : Host)

def readGivenText (value : Value) : Except Complaint GivenText :=
  if value.isForeign then host.text value
  else
    match value with
    | .text given => .ok (.whole given)
    | .brokenText codes _ => .ok (.broken codes)
    | .bytes given =>
        match utf8Text? given with
        | some decoded => .ok (.whole decoded)
        | none => .error .notUnicode
    | .derived _ look =>
        match look.memberText? with
        | some text => .ok (.whole text)
        | none => .error .notText
    | _ => .error .notText

def readText (value : Value) : Except Complaint String := do
  match ← readGivenText host value with
  | .whole text => .ok text
  | .broken _ => .error .notUnicode

def readNonemptyText (value : Value) : Except Complaint String := do
  let text ← readText host value
  if text.isEmpty then .error .tooShort else .ok text

def readOptionalText (value : Value) : Except Complaint (Option GivenText) :=
  if value.isNull then .ok none else (readGivenText host value).map some

def readWord (value : Value) : Except Complaint String :=
  if value.isForeign then host.word value
  else
    match value with
    | .text given => .ok given
    | .brokenText _ _ => .error .notUnicode
    | _ => .error .notAmongChoices

def readChoice {α : Type} (choices : List (String × α)) (value : Value) : Except Complaint α := do
  match choices.lookup (← readWord host value) with
  | some choice => .ok choice
  | none => .error .notAmongChoices

def isBlank (character : Char) : Bool :=
  let code := character.toNat
  (9 ≤ code && code ≤ 13) || code == 0x20 || code == 0x85 || code == 0xa0 || code == 0x1680 ||
    (0x2000 ≤ code && code ≤ 0x200a) || code == 0x2028 || code == 0x2029 || code == 0x202f ||
    code == 0x205f || code == 0x3000

def trimmed (characters : List Char) : List Char :=
  ((characters.dropWhile isBlank).reverse.dropWhile isBlank).reverse

def isNonzeroDigit (character : Char) : Bool := character.isDigit && character != '0'

/-- A plain integer: an optional minus and digits that start with a zero only if it is alone. Too
many digits are reported whatever follows them. -/
def readPlainInteger (text : List Char) : Except Complaint Int :=
  let (negative, unsigned) := match text with
    | '-' :: rest => (true, rest)
    | rest => (false, rest)
  let digits := unsigned.takeWhile Char.isDigit
  if unsigned = ['0'] then .ok 0
  else if !unsigned.head?.any isNonzeroDigit then .error .notIntegerText
  else if maxPrintedDigits < digits.length then .error .integerTooLong
  else if digits.length < unsigned.length then .error .notIntegerText
  else
    let magnitude : Int := Nat.ofDigitChars 10 digits 0
    .ok (if negative then -magnitude else magnitude)

def withoutFraction (text : List Char) : List Char :=
  match text.dropWhile (· != '.') with
  | '.' :: zeros@(_ :: _) => if zeros.all (· == '0') then text.takeWhile (· != '.') else text
  | _ => text

/-- A number without the zeros in front, between which any number of underscores may stand. A minus
may follow the zeros. -/
def withoutLeadingZeros? (text : List Char) : Option (List Char) :=
  match text with
  | '0' :: rest =>
      match rest.dropWhile fun character => character = '0' || character = '_' with
      | [] => text.getLast?.map ([·])
      | first :: others =>
          if isNonzeroDigit first || first = '-' then some (first :: others) else none
  | first :: others => if isNonzeroDigit first then some (first :: others) else none
  | [] => none

def underscoresApart : List Char → Bool
  | [] => true
  | ['_'] => false
  | '_' :: '_' :: _ => false
  | _ :: rest => underscoresApart rest

def withoutUnderscores (text : List Char) : List Char :=
  if text.head? != some '_' && underscoresApart text then text.filter (· != '_') else text

def plainSpelling? (text : List Char) : Option (List Char) := do
  let (sign, unsigned) := match withoutFraction (trimmed text) with
    | '-' :: rest => (['-'], rest)
    | '+' :: rest => ([], rest)
    | rest => ([], rest)
  some (sign ++ withoutUnderscores (← withoutLeadingZeros? unsigned))

/-- Integer text, plain or in a spelling that can be made plain. Only the text as it is given can
have too many digits. -/
def readIntegerText (text : List Char) : Except Complaint Int :=
  match readPlainInteger text with
  | .error .notIntegerText =>
      match (plainSpelling? text).map readPlainInteger with
      | some (.ok number) => .ok number
      | _ => .error .notIntegerText
  | decided => decided

def readInteger (value : Value) : Except Complaint Int :=
  if value.isForeign then host.integer value
  else
    match value with
    | .bool given => .ok (if given then 1 else 0)
    | .int given => .ok given
    | .derived given _ => .ok given
    | .float given =>
        if !given.isFinite then .error .notFinite
        else
          match given.toInt? with
          | none => .error .notWhole
          | some whole =>
              if whole.natAbs < 0x8000000000000000 then .ok whole else .error .integerTooLong
    | .notANumber _ => .error .notFinite
    | .text given => readIntegerText given.toList
    | .brokenText _ _ => .error .notUnicode
    | .bytes given =>
        match utf8Text? given with
        | some decoded => readIntegerText decoded.toList
        | none => .error .notIntegerText
    | _ => .error .notInteger

def maxPort : Nat := 65535

def readPort (value : Value) : Except Complaint Nat := do
  let number ← readInteger host value
  if number < 0 then .error .tooSmall
  else if (maxPort : Int) < number then .error .tooLarge
  else .ok number.toNat

end InDoubt.Settings
