import InDoubt.Proofs.Base64.Canonical
import InDoubt.Proofs.Branch.Canonical

namespace InDoubt.Flat

/-- Decimal digits of a number: a zero alone, or digits of which the first is no zero. -/
def Decimal (digits : List Char) (number : Nat) : Prop :=
  (digits = ['0'] ∨ ∃ first rest, digits = first :: rest ∧ first.isDigit = true ∧ first ≠ '0' ∧
    ∀ digit ∈ rest, digit.isDigit = true) ∧
  Nat.ofDigitChars 10 digits 0 = number

def Component (spelling : List Char) (text : String) : Prop :=
  ∃ content : List UInt8, Base64.Spells spelling content ∧ content.length ≤ 64 ∧
    (∀ byte ∈ content, 0x20 ≤ byte.toNat ∧ byte.toNat ≤ 0x7e) ∧
    text = String.ofList (content.map fun byte => Char.ofNat byte.toNat)

/-- The value is a text that spells the triple of a number and two components. -/
def Spelled (given : Value) (number : Nat) (gtrid bqual : String) : Prop :=
  ∃ digits first second : List Char,
    given = .text (String.ofList (digits ++ '_' :: (first ++ '_' :: second))) ∧
    Decimal digits number ∧ number ≤ 0x7fffffff ∧ Component first gtrid ∧ Component second bqual

theorem digitChar_of_isDigit {digit : Char} (numeric : digit.isDigit = true) :
    digit.toNat - 48 < 10 ∧ (digit.toNat - 48).digitChar = digit := by
  have bounds : 48 ≤ digit.toNat ∧ digit.toNat ≤ 57 := isDigit_iff.mp numeric
  have table : ∀ value < 10, value.digitChar = Char.ofNat (value + 48) := by decide
  refine ⟨by omega, ?_⟩
  rw [table _ (by omega), Nat.sub_add_cancel bounds.1, Char.ofNat_toNat]

theorem toDigits_ofDigitChars {value : Nat} (positive : 0 < value) {digits : List Char}
    (numeric : ∀ digit ∈ digits, digit.isDigit = true) :
    Nat.toDigits 10 (Nat.ofDigitChars 10 digits value) = Nat.toDigits 10 value ++ digits := by
  induction digits generalizing value with
  | nil => simp
  | cons digit rest continued =>
      rw [List.forall_mem_cons] at numeric
      obtain ⟨small, sameDigit⟩ := digitChar_of_isDigit numeric.1
      have nextPositive : 0 < 10 * value + (digit.toNat - 48) := by omega
      calc
        Nat.toDigits 10 (Nat.ofDigitChars 10 (digit :: rest) value) =
            Nat.toDigits 10 (10 * value + (digit.toNat - 48)) ++ rest := by
          rw [Nat.ofDigitChars_cons]
          exact continued nextPositive numeric.2
        _ = Nat.toDigits 10 value ++ [digit] ++ rest := by
          rw [← Nat.toDigits_append_toDigits (by decide) positive small,
            Nat.toDigits_of_lt_base small, sameDigit]
        _ = Nat.toDigits 10 value ++ digit :: rest := by
          rw [List.append_assoc, List.singleton_append]

theorem Decimal.eq_toDigits {digits : List Char} {number : Nat}
    (decimal : Decimal digits number) : digits = Nat.toDigits 10 number := by
  obtain ⟨rfl | ⟨first, rest, rfl, firstNumeric, nonzero, restNumeric⟩, rfl⟩ := decimal
  · rfl
  · obtain ⟨small, sameDigit⟩ := digitChar_of_isDigit firstNumeric
    have positive : 0 < first.toNat - 48 := by
      apply Nat.pos_of_ne_zero
      intro isZero
      rw [isZero] at sameDigit
      exact nonzero sameDigit.symm
    have zeroCode : '0'.toNat = 48 := rfl
    rw [Nat.ofDigitChars_cons, Nat.mul_zero, Nat.zero_add, zeroCode,
      toDigits_ofDigitChars positive restNumeric, Nat.toDigits_of_lt_base small, sameDigit]
    rfl

theorem toDigits_first {number : Nat} (positive : 0 < number) :
    ∃ first rest, Nat.toDigits 10 number = first :: rest ∧ first ≠ '0' := by
  induction number using Nat.base_induction 10 (by decide) with
  | single digit small =>
      refine ⟨digit.digitChar, [], Nat.toDigits_of_lt_base small, ?_⟩
      rw [ne_eq, Nat.digitChar_eq_zero]
      omega
  | digit higher last small higherPositive higherFirst =>
      obtain ⟨first, rest, same, nonzero⟩ := higherFirst higherPositive
      refine ⟨first, rest ++ [last.digitChar], ?_, nonzero⟩
      rw [← Nat.toDigits_append_toDigits (by decide) higherPositive small, same,
        Nat.toDigits_of_lt_base small, List.cons_append]

theorem decimal_toDigits (number : Nat) : Decimal (Nat.toDigits 10 number) number := by
  refine ⟨?_, Nat.ofDigitChars_ten_toDigits⟩
  by_cases zero : number = 0
  · exact .inl (zero ▸ rfl)
  · obtain ⟨first, rest, same, nonzero⟩ := toDigits_first (Nat.pos_of_ne_zero zero)
    have numeric : ∀ digit ∈ first :: rest, digit.isDigit = true := by
      rw [← same]
      intro digit member
      exact Nat.isDigit_of_mem_toDigits (by decide) (by decide) member
    rw [List.forall_mem_cons] at numeric
    exact .inr ⟨first, rest, same, numeric.1, nonzero, numeric.2⟩

theorem Component.valid {spelling : List Char} {text : String}
    (component : Component spelling text) :
    Part.Valid text ∧ spelling = Base64.ofAscii text.toList := by
  obtain ⟨content, spells, short, printable, rfl⟩ := component
  have ascii : ∀ byte ∈ content, byte.toNat < 128 := by
    intro byte member
    have bounds := printable byte member
    omega
  refine ⟨⟨?_, ?_⟩, ?_⟩
  · rw [String.toList_ofList, List.length_map]
    exact short
  · rw [String.toList_ofList, List.all_map, List.all_eq_true]
    intro byte member
    rw [Function.comp_apply, ← Part.admitsCode_toNat,
      Base64.toNat_ofNat_of_ascii (ascii byte member)]
    simpa [Part.admitsCode] using printable byte member
  · rw [String.toList_ofList, Base64.spells_iff.mp spells]
    exact congrArg Base64.encode (Base64.asciiBytes_asciiCharacters ascii).symm

theorem component_ofAscii {text : String} (valid : Part.Valid text) :
    Component (Base64.ofAscii text.toList) text := by
  have ascii := all_isAscii_of_valid valid
  refine ⟨Base64.asciiBytes text.toList, Base64.spells_iff.mpr rfl, ?_, ?_, ?_⟩
  · rw [Base64.asciiBytes, List.length_map]
    exact valid.1
  · intro byte byteMember
    obtain ⟨character, member, rfl⟩ := List.mem_map.mp byteMember
    rw [Base64.toNat_byte_of_isAscii (List.all_eq_true.mp ascii character member)]
    simpa [Part.admits] using List.all_eq_true.mp valid.2 character member
  · exact (String.ofList_toList.symm.trans
      (congrArg String.ofList (Base64.asciiCharacters_asciiBytes ascii).symm))

theorem spelled_iff {given : Value} {number : Nat} {gtrid bqual : String} :
    Spelled given number gtrid bqual ↔
      (Triple.mk ⟨number, none⟩ gtrid bqual).Valid ∧
        given = .text (write ⟨⟨number, none⟩, gtrid, bqual⟩) := by
  constructor
  · intro spelled
    obtain ⟨digits, first, second, rfl, decimal, small, gtridSpelled, bqualSpelled⟩ := spelled
    obtain ⟨gtridValid, rfl⟩ := gtridSpelled.valid
    obtain ⟨bqualValid, rfl⟩ := bqualSpelled.valid
    exact ⟨⟨small, gtridValid, bqualValid⟩, by rw [decimal.eq_toDigits]; rfl⟩
  · intro written
    obtain ⟨⟨small, gtridValid, bqualValid⟩, rfl⟩ := written
    exact ⟨_, _, _, rfl, decimal_toDigits number, small, component_ofAscii gtridValid,
      component_ofAscii bqualValid⟩

end InDoubt.Flat
