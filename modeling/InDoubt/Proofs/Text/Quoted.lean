import Mathlib.Algebra.Order.Ring.Nat
import InDoubt.Text.Quoted

namespace InDoubt.Text

def hexDigitValue (digit : Char) : Nat :=
  if digit.isDigit then digit.toNat - 48 else digit.toNat - 87

def hexValue (digits : List Char) : Nat :=
  digits.foldl (fun value digit => 16 * value + hexDigitValue digit) 0

theorem hexDigitValue_digitChar {number : Nat} (small : number < 16) :
    hexDigitValue (Nat.digitChar number) = number := by
  decide +revert

theorem hexValue_append (digits : List Char) (digit : Char) :
    hexValue (digits ++ [digit]) = 16 * hexValue digits + hexDigitValue digit := by
  simp only [hexValue, List.foldl_append, List.foldl_cons, List.foldl_nil]

theorem hexValue_hexDigits (width number : Nat) :
    hexValue (hexDigits width number) = number % 16 ^ width := by
  induction width generalizing number with
  | zero => exact (Nat.mod_one number).symm
  | succ width shorter =>
      rw [hexDigits, hexValue_append, shorter,
        hexDigitValue_digitChar (Nat.mod_lt number (by decide)), Nat.pow_succ, Nat.mul_comm _ 16,
        Nat.mod_mul, Nat.add_comm]

def escapedCode (quote : Char) (code : Nat) : List Char :=
  if isSurrogate code then backslash :: 'u' :: hexDigits 4 code
  else escaped isPrintable quote (Char.ofNat code)

def hexCode (width : Nat) (characters : List Char) : Nat × List Char :=
  (hexValue (characters.take width), characters.drop width)

def firstCode? : List Char → Option (Nat × List Char)
  | [] => none
  | first :: rest =>
      if first ≠ backslash then some (first.toNat, rest)
      else
        match rest with
        | [] => none
        | 't' :: rest => some ('\t'.toNat, rest)
        | 'n' :: rest => some ('\n'.toNat, rest)
        | 'r' :: rest => some ('\r'.toNat, rest)
        | 'x' :: rest => some (hexCode 2 rest)
        | 'u' :: rest => some (hexCode 4 rest)
        | 'U' :: rest => some (hexCode 8 rest)
        | other :: rest => some (other.toNat, rest)

def IsQuote (character : Char) : Prop := character = apostrophe ∨ character = doubleQuote

theorem isQuote_quoteFor (characters : List Char) : IsQuote (quoteFor characters) := by
  unfold quoteFor
  split
  · exact .inr rfl
  · exact .inl rfl

theorem hexCode_hexDigits {width number : Nat} (fits : number < 16 ^ width) (rest : List Char) :
    hexCode width (hexDigits width number ++ rest) = (number, rest) := by
  have counted : (hexDigits width number).length = width := length_hexDigits width number
  rw [hexCode, List.take_left' counted, List.drop_left' counted, hexValue_hexDigits,
    Nat.mod_eq_of_lt fits]

/-- The ways to write a code point between two quotes. -/
inductive Spelling (quote : Char) : Nat → List Char → Prop
  | marked {character : Char} (special : IsQuote character ∨ character = backslash) :
      Spelling quote character.toNat [backslash, character]
  | tab : Spelling quote '\t'.toNat [backslash, 't']
  | lineFeed : Spelling quote '\n'.toNat [backslash, 'n']
  | carriageReturn : Spelling quote '\r'.toNat [backslash, 'r']
  | shown {character : Char} (notQuote : character ≠ quote) (notMark : character ≠ backslash) :
      Spelling quote character.toNat [character]
  | hexadecimal {letter : Char} {width code : Nat}
      (announced : (letter, width) ∈ [('x', 2), ('u', 4), ('U', 8)]) (fits : code < 16 ^ width) :
      Spelling quote code (backslash :: letter :: hexDigits width code)

theorem firstCode?_of_spelling {quote : Char} {code : Nat} {spelled : List Char}
    (spelling : Spelling quote code spelled) (rest : List Char) :
    firstCode? (spelled ++ rest) = some (code, rest) := by
  cases spelling with
  | marked special => rcases special with (rfl | rfl) | rfl <;> rfl
  | tab => rfl
  | lineFeed => rfl
  | carriageReturn => rfl
  | shown notQuote notMark => exact if_pos notMark
  | hexadecimal announced fits =>
      simp only [List.mem_cons, Prod.mk.injEq, List.not_mem_nil, or_false] at announced
      rcases announced with ⟨rfl, rfl⟩ | ⟨rfl, rfl⟩ | ⟨rfl, rfl⟩
      · exact congrArg some (hexCode_hexDigits fits rest)
      · exact congrArg some (hexCode_hexDigits fits rest)
      · exact congrArg some (hexCode_hexDigits fits rest)

section

variable {quote : Char} (isQuote : IsQuote quote)

include isQuote

theorem Spelling.eq_cons {code : Nat} {spelled : List Char}
    (spelling : Spelling quote code spelled) :
    ∃ first rest, spelled = first :: rest ∧ first ≠ quote := by
  have mark : backslash ≠ quote := by rcases isQuote with rfl | rfl <;> decide
  cases spelling with
  | shown notQuote notMark => exact ⟨_, _, rfl, notQuote⟩
  | _ => exact ⟨_, _, rfl, mark⟩

theorem spelling_escaped (shown : Char → Bool) (character : Char) :
    Spelling quote character.toNat (escaped shown quote character) := by
  simp only [escaped]
  split
  · next special =>
    apply Spelling.marked
    rcases special with rfl | same
    · exact .inl isQuote
    · exact .inr same
  next plain =>
  rw [not_or] at plain
  split
  · next same => exact same ▸ .tab
  split
  · next same => exact same ▸ .lineFeed
  split
  · next same => exact same ▸ .carriageReturn
  split
  · exact .shown plain.1 plain.2
  split
  · next fits => exact .hexadecimal (by decide) fits
  split
  · next fits => exact .hexadecimal (by decide) fits
  · exact .hexadecimal (by decide) (UInt32.toNat_lt character.val)

theorem spelling_escapedCode {code : Nat} (isCodePoint : code < 0x110000) :
    Spelling quote code (escapedCode quote code) := by
  unfold escapedCode
  split
  · next surrogate =>
    simp only [isSurrogate, Bool.and_eq_true, decide_eq_true_eq] at surrogate
    exact .hexadecimal (by decide) (Nat.lt_trans surrogate.2 (by decide))
  · next whole =>
    have valid : code.isValidChar := by
      simp only [isSurrogate, Bool.and_eq_true, decide_eq_true_eq] at whole
      simp only [Nat.isValidChar]
      omega
    have found : (Char.ofNat code).toNat = code := by
      rw [Char.ofNat, dif_pos valid]
      rfl
    have spelling := spelling_escaped isQuote isPrintable (Char.ofNat code)
    rwa [found] at spelling

theorem codes_eq_of_escaped_append {codes codes' : List Nat} {rest rest' : List Char}
    (codePoints : ∀ code ∈ codes, code < 0x110000) (codePoints' : ∀ code ∈ codes', code < 0x110000)
    (same : codes.flatMap (escapedCode quote) ++ quote :: rest =
      codes'.flatMap (escapedCode quote) ++ quote :: rest') :
    codes = codes' ∧ rest = rest' := by
  -- Both begin with the same code point or both end here: nothing inside begins with the quote.
  induction codes generalizing codes' with
  | nil =>
      cases codes' with
      | nil => exact ⟨rfl, List.tail_eq_of_cons_eq same⟩
      | cons code' more' =>
          have spelling := spelling_escapedCode isQuote (codePoints' code' List.mem_cons_self)
          obtain ⟨first, tail, spelled, notQuote⟩ := spelling.eq_cons isQuote
          rw [List.flatMap_cons, spelled] at same
          exact absurd (List.head_eq_of_cons_eq same).symm notQuote
  | cons code more moreSame =>
      cases codes' with
      | nil =>
          have spelling := spelling_escapedCode isQuote (codePoints code List.mem_cons_self)
          obtain ⟨first, tail, spelled, notQuote⟩ := spelling.eq_cons isQuote
          rw [List.flatMap_cons, spelled] at same
          exact absurd (List.head_eq_of_cons_eq same) notQuote
      | cons code' more' =>
          obtain ⟨isCodePoint, morePoints⟩ := List.forall_mem_cons.mp codePoints
          obtain ⟨isCodePoint', morePoints'⟩ := List.forall_mem_cons.mp codePoints'
          rw [List.flatMap_cons, List.flatMap_cons, List.append_assoc, List.append_assoc] at same
          have read := congrArg firstCode? same
          rw [firstCode?_of_spelling (spelling_escapedCode isQuote isCodePoint),
            firstCode?_of_spelling (spelling_escapedCode isQuote isCodePoint'),
            Option.some.injEq, Prod.mk.injEq] at read
          obtain ⟨codesSame, restSame⟩ := moreSame morePoints morePoints' read.2
          exact ⟨congrArg₂ List.cons read.1 codesSame, restSame⟩

end

theorem toList_quotedCodes (codes : List Nat) :
    ∃ quote, IsQuote quote ∧
      (quotedCodes codes).toList = quote :: (codes.flatMap (escapedCode quote) ++ [quote]) :=
  ⟨_, isQuote_quoteFor _, String.toList_ofList⟩

/-- Equal texts that begin with quoted texts begin with the same one, and go on alike after it. -/
theorem codes_eq_of_quotedCodes_append {codes codes' : List Nat} {rest rest' : List Char}
    (codePoints : ∀ code ∈ codes, code < 0x110000) (codePoints' : ∀ code ∈ codes', code < 0x110000)
    (same : (quotedCodes codes).toList ++ rest = (quotedCodes codes').toList ++ rest') :
    codes = codes' ∧ rest = rest' := by
  obtain ⟨quote, isQuote, written⟩ := toList_quotedCodes codes
  obtain ⟨quote', _, written'⟩ := toList_quotedCodes codes'
  rw [written, written', List.cons_append, List.cons_append, List.cons.injEq] at same
  obtain ⟨rfl, inside⟩ := same
  rw [List.append_assoc, List.append_assoc] at inside
  exact codes_eq_of_escaped_append isQuote codePoints codePoints' inside

example : quotedCodes [0x27, 0xd800, 0x0a] = "\x22\x27\\ud800\\n\x22" := by decide +kernel

theorem not_isSurrogate_toNat (character : Char) : isSurrogate character.toNat = false := by
  have valid : character.toNat.isValidChar := character.valid
  simp only [Nat.isValidChar] at valid
  simp only [isSurrogate, Bool.and_eq_false_iff, decide_eq_false_iff_not]
  omega

theorem toNat_lt (character : Char) : character.toNat < 0x110000 := by
  have valid : character.toNat.isValidChar := character.valid
  simp only [Nat.isValidChar] at valid
  omega

theorem isCharacter_toNat (character : Char) : isCharacter character.toNat = true := by
  simp only [isCharacter, not_isSurrogate_toNat, Bool.not_false, Bool.true_and, decide_eq_true_eq]
  exact toNat_lt character

theorem toNat_ofNat_of_isCharacter {code : Nat} (isCharacter : Text.isCharacter code = true) :
    (Char.ofNat code).toNat = code := by
  have valid : code.isValidChar := by
    simp only [Text.isCharacter, isSurrogate, Bool.and_eq_true, Bool.not_eq_true',
      Bool.and_eq_false_iff, decide_eq_false_iff_not, decide_eq_true_eq] at isCharacter
    simp only [Nat.isValidChar]
    omega
  rw [Char.ofNat, dif_pos valid]
  rfl

theorem all_isCharacter_codes (text : String) : (codes text).all isCharacter = true := by
  rw [List.all_map, List.all_eq_true]
  exact fun character _ => isCharacter_toNat character

theorem codes_ofList_of_all {given : List Nat} (whole : given.all isCharacter = true) :
    codes (String.ofList (given.map Char.ofNat)) = given := by
  rw [List.all_eq_true] at whole
  rw [codes, String.toList_ofList, List.map_map]
  calc given.map (Char.toNat ∘ Char.ofNat)
      = given.map id :=
        List.map_congr_left fun code member => toNat_ofNat_of_isCharacter (whole code member)
    _ = given := List.map_id given

theorem quoted_eq_quotedCodes (text : String) :
    quoted text = quotedCodes (text.toList.map Char.toNat) := by
  have whole : ((text.toList.map Char.toNat).filter (!isSurrogate ·)).map Char.ofNat =
      text.toList := by
    rw [List.filter_eq_self.mpr, List.map_map]
    · exact List.map_id'' Char.ofNat_toNat text.toList
    · intro code member
      obtain ⟨character, _, rfl⟩ := List.mem_map.mp member
      rw [not_isSurrogate_toNat, Bool.not_false]
  simp only [quoted, enclosed, quotedCodes, whole, List.flatMap_map, not_isSurrogate_toNat,
    Bool.false_eq_true, if_false, Char.ofNat_toNat]

end InDoubt.Text
