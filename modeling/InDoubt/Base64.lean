namespace InDoubt.Base64

abbrev Sextet := Fin 64

def symbol (sextet : Sextet) : Char :=
  let code := sextet.val
  if code < 26 then Char.ofNat (code + 65)
  else if code < 52 then Char.ofNat (code + 71)
  else if code < 62 then Char.ofNat (code - 4)
  else if code = 62 then '+'
  else '/'

def sextet? (character : Char) : Option Sextet :=
  let code := character.toNat
  if h : 65 ≤ code ∧ code ≤ 90 then some ⟨code - 65, by omega⟩
  else if h : 97 ≤ code ∧ code ≤ 122 then some ⟨code - 71, by omega⟩
  else if h : 48 ≤ code ∧ code ≤ 57 then some ⟨code + 4, by omega⟩
  else if character = '+' then some 62
  else if character = '/' then some 63
  else none

theorem sextet?_symbol (sextet : Sextet) : sextet? (symbol sextet) = some sextet := by
  revert sextet
  decide

theorem symbol_ne_underscore (sextet : Sextet) : symbol sextet ≠ '_' := by
  revert sextet
  decide

def high (byte : UInt8) : Sextet := ⟨byte.toNat / 4, by have := byte.toNat_lt; omega⟩

def middle (first second : UInt8) : Sextet :=
  ⟨first.toNat % 4 * 16 + second.toNat / 16, by have := second.toNat_lt; omega⟩

def lower (second third : UInt8) : Sextet :=
  ⟨second.toNat % 16 * 4 + third.toNat / 64, by have := third.toNat_lt; omega⟩

def low (third : UInt8) : Sextet := ⟨third.toNat % 64, by omega⟩

def sextets : List UInt8 → List Sextet
  | first :: second :: third :: rest =>
      high first :: middle first second :: lower second third :: low third :: sextets rest
  | [first, second] => [high first, middle first second, lower second 0]
  | [first] => [high first, middle first 0]
  | [] => []

def byte (value : Nat) : UInt8 := UInt8.ofNat value

def bytes : List Sextet → List UInt8
  | first :: second :: third :: fourth :: rest =>
      byte (first.val * 4 + second.val / 16) ::
        byte (second.val % 16 * 16 + third.val / 4) ::
        byte (third.val % 4 * 64 + fourth.val) :: bytes rest
  | [first, second, third] =>
      [byte (first.val * 4 + second.val / 16), byte (second.val % 16 * 16 + third.val / 4)]
  | [first, second] => [byte (first.val * 4 + second.val / 16)]
  | _ => []

@[simp] private theorem byte_high_middle (first second : UInt8) :
    byte ((high first).val * 4 + (middle first second).val / 16) = first := by
  apply UInt8.toNat_inj.mp
  have firstBound := first.toNat_lt
  have secondBound := second.toNat_lt
  simp only [byte, high, middle, UInt8.toNat_ofNat']
  omega

@[simp] private theorem byte_middle_lower (first second third : UInt8) :
    byte ((middle first second).val % 16 * 16 + (lower second third).val / 4) = second := by
  apply UInt8.toNat_inj.mp
  have secondBound := second.toNat_lt
  have thirdBound := third.toNat_lt
  simp only [byte, middle, lower, UInt8.toNat_ofNat']
  omega

@[simp] private theorem byte_lower_low (second third : UInt8) :
    byte ((lower second third).val % 4 * 64 + (low third).val) = third := by
  apply UInt8.toNat_inj.mp
  have thirdBound := third.toNat_lt
  simp only [byte, lower, low, UInt8.toNat_ofNat']
  omega

@[simp] theorem bytes_sextets (given : List UInt8) : bytes (sextets given) = given := by
  fun_induction sextets given with
  | case1 first second third rest shorter => simp [bytes, shorter]
  | case2 first second => simp [bytes]
  | case3 first => simp [bytes]
  | case4 => rfl

def paddingLength (byteCount : Nat) : Nat := (3 - byteCount % 3) % 3

def encode (given : List UInt8) : List Char :=
  (sextets given).map symbol ++ List.replicate (paddingLength given.length) '='

def readSymbols : List Char → List Sextet × List Char
  | [] => ([], [])
  | character :: rest =>
      match sextet? character with
      | some sextet =>
          let (more, remaining) := readSymbols rest
          (sextet :: more, remaining)
      | none => ([], character :: rest)

/-- Padding completes the last group; after whole groups any amount of it is allowed. -/
def completes (symbolCount : Nat) (padding : List Char) : Bool :=
  match symbolCount % 4 with
  | 0 => padding.all (· == '=') && (symbolCount != 0 || padding.isEmpty)
  | 2 => padding == ['=', '=']
  | 3 => padding == ['=']
  | _ => false

def decode? (characters : List Char) : Option (List UInt8) :=
  let (read, padding) := readSymbols characters
  if completes read.length padding then some (bytes read) else none

def isAscii (character : Char) : Bool := character.toNat < 128

theorem toNat_ofNat_of_ascii {code : Nat} (ascii : code < 128) :
    (Char.ofNat code).toNat = code := by
  have valid : code.isValidChar := Or.inl (by omega)
  rw [Char.ofNat, dif_pos valid]
  rfl

def asciiBytes (characters : List Char) : List UInt8 :=
  characters.map fun character => UInt8.ofNat character.toNat

def asciiCharacters (content : List UInt8) : List Char :=
  content.map fun byte => Char.ofNat byte.toNat

def ofAscii (characters : List Char) : List Char := encode (asciiBytes characters)

inductive Refusal where
  | foreignText
  | foreignSpelling
  | malformed
  | foreignContent
  deriving DecidableEq, Repr

def encodeText (text : String) : Except Refusal String :=
  if text.toList.all isAscii then .ok (String.ofList (ofAscii text.toList))
  else .error .foreignText

def encodeCodes (codes : List Nat) : Except Refusal String :=
  if codes.all (· < 128) then .ok (String.ofList (encode (codes.map UInt8.ofNat)))
  else .error .foreignText

theorem encodeCodes_toNat (text : String) :
    encodeCodes (text.toList.map Char.toNat) = encodeText text := by
  rw [encodeCodes, List.all_map, List.map_map]
  rfl

def decodeAscii (spelling : List Char) : Except Refusal (List Char) :=
  if !spelling.all isAscii then .error .foreignSpelling
  else
    match decode? spelling with
    | none => .error .malformed
    | some content =>
        if content.all (· < 128) then .ok (asciiCharacters content)
        else .error .foreignContent

def decodeText (text : String) : Except Refusal String :=
  (decodeAscii text.toList).map String.ofList

end InDoubt.Base64
