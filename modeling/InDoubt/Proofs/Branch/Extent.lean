import InDoubt.Proofs.Base64.Ascii
import InDoubt.Proofs.Branch.Obtained
import InDoubt.Proofs.Branch.RoundTrip
import InDoubt.Proofs.Flat.Spelling

namespace InDoubt

namespace Base64

theorem length_ofAscii (characters : List Char) :
    (ofAscii characters).length = writtenLength characters.length := by
  rw [ofAscii, length_encode_ceilDiv, asciiBytes, List.length_map, writtenLength]

theorem utf8ByteSize_of_isAscii {characters : List Char}
    (ascii : ∀ character ∈ characters, isAscii character = true) :
    (String.ofList characters).utf8ByteSize = characters.length := by
  induction characters with
  | nil => rfl
  | cons character rest restCounted =>
      obtain ⟨characterAscii, restAscii⟩ := List.forall_mem_cons.mp ascii
      have single : character.utf8Size = 1 := by
        rw [Char.utf8Size_eq_one_iff, UInt32.le_iff_toNat_le]
        exact Nat.le_of_lt_succ (of_decide_eq_true characterAscii)
      rw [String.ofList_cons, String.utf8ByteSize_append, String.utf8ByteSize_singleton, single,
        restCounted restAscii, List.length_cons, Nat.add_comm]

end Base64

namespace Flat

def Admitted (character : Char) : Prop :=
  ('0' ≤ character ∧ character ≤ '9') ∨ ('A' ≤ character ∧ character ≤ 'Z') ∨
    ('a' ≤ character ∧ character ≤ 'z') ∨ character ∈ ['+', '/', '=', '_']

instance (character : Char) : Decidable (Admitted character) :=
  inferInstanceAs (Decidable (_ ∨ _ ∨ _ ∨ _))

def Delicate (character : Char) : Prop :=
  character ∈ [Text.apostrophe, Text.doubleQuote, Text.backslash, ' '] ∨
    character.toNat < 0x20 ∨ (0x7f ≤ character.toNat ∧ character.toNat ≤ 0x9f)

instance (character : Char) : Decidable (Delicate character) :=
  inferInstanceAs (Decidable (_ ∨ _))

/-- What can be said of the flat text of a number and two components without reading it. -/
structure Extent (number : Nat) (gtrid bqual text : String) : Prop where
  leading : ∃ digits rest, text.toList = digits ++ '_' :: rest ∧ Decimal digits number ∧
    text.length = digits.length + 2 + Base64.writtenLength gtrid.length +
      Base64.writtenLength bqual.length
  short : text.length ≤ 188
  bytes : text.utf8ByteSize = text.length
  admitted : ∀ character ∈ text.toList, Admitted character
  separators : text.toList.count '_' = 2
  plain : ∀ character ∈ text.toList, ¬Delicate character

theorem admitted_symbol (sextet : Base64.Sextet) : Admitted (Base64.symbol sextet) := by
  revert sextet
  decide

theorem admitted_of_isDigit {character : Char} (digit : character.isDigit = true) :
    Admitted character := by
  simp only [Char.isDigit, Bool.and_eq_true, decide_eq_true_eq] at digit
  exact .inl digit

theorem admitted_of_mem_encode {content : List UInt8} {character : Char}
    (member : character ∈ Base64.encode content) : Admitted character := by
  rcases Base64.mem_encode member with ⟨sextet, rfl⟩ | rfl
  · exact admitted_symbol sextet
  · decide

theorem admitted_of_mem_characters {triple : Triple} {character : Char}
    (member : character ∈ characters triple) : Admitted character := by
  simp only [characters, Shape.join, Shape.ofTriple, List.mem_append, List.mem_cons] at member
  rcases member with digit | rfl | gtrid | rfl | bqual
  · exact admitted_of_isDigit (Nat.isDigit_of_mem_toDigits (by decide) (by decide) digit)
  · decide
  · exact admitted_of_mem_encode gtrid
  · decide
  · exact admitted_of_mem_encode bqual

theorem Admitted.toNat_cases {character : Char} (admitted : Admitted character) :
    (48 ≤ character.toNat ∧ character.toNat ≤ 57) ∨ (65 ≤ character.toNat ∧ character.toNat ≤ 90) ∨
      (97 ≤ character.toNat ∧ character.toNat ≤ 122) ∨ character.toNat ∈ [43, 47, 61, 95] := by
  simp only [Admitted, Char.le_def, UInt32.le_iff_toNat_le] at admitted
  rcases admitted with digit | upper | lower | sign
  · exact .inl digit
  · exact .inr (.inl upper)
  · exact .inr (.inr (.inl lower))
  · exact .inr (.inr (.inr (List.mem_map_of_mem sign)))

theorem Admitted.isAscii {character : Char} (admitted : Admitted character) :
    Base64.isAscii character = true := by
  have cases := admitted.toNat_cases
  simp only [List.mem_cons, List.not_mem_nil, or_false] at cases
  rw [Base64.isAscii, decide_eq_true_eq]
  omega

theorem Admitted.not_delicate {character : Char} (admitted : Admitted character) :
    ¬Delicate character := by
  intro delicate
  rcases delicate with quoting | control
  · simp only [List.mem_cons, List.not_mem_nil, or_false] at quoting
    rcases quoting with rfl | rfl | rfl | rfl <;> exact absurd admitted (by decide)
  · have cases := admitted.toNat_cases
    simp only [List.mem_cons, List.not_mem_nil, or_false] at cases
    omega

theorem count_separator_characters (triple : Triple) :
    (characters triple).count separator = 2 := by
  have digits : (Nat.toDigits 10 triple.formatId.number).count separator = 0 := by
    apply List.count_eq_zero_of_not_mem
    apply separator_not_mem_digits
    exact List.all_eq_true.mpr fun _ => Nat.isDigit_of_mem_toDigits (by decide) (by decide)
  have component : ∀ text : String, (Base64.ofAscii text.toList).count separator = 0 := by
    intro text
    exact List.count_eq_zero_of_not_mem (Base64.underscore_not_mem_encode _)
  simp only [characters, Shape.join, Shape.ofTriple, List.count_append, List.count_cons_self,
    digits, component]

theorem length_characters (triple : Triple) :
    (characters triple).length = (Nat.toDigits 10 triple.formatId.number).length + 2 +
      Base64.writtenLength triple.gtrid.length + Base64.writtenLength triple.bqual.length := by
  simp only [characters, Shape.join, Shape.ofTriple, List.length_append, List.length_cons,
    Base64.length_ofAscii, String.length_toList]
  omega

theorem length_component_le {text : String} (valid : Part.Valid text) :
    Base64.writtenLength text.length ≤ 88 := by
  have short : text.length ≤ 64 := by
    rw [← String.length_toList]
    exact valid.1
  rw [Base64.writtenLength, Nat.ceilDiv_eq_add_pred_div]
  omega

theorem extent_write {triple : Triple} (valid : triple.Valid) :
    Extent triple.formatId.number triple.gtrid triple.bqual (write triple) := by
  have written : (write triple).toList = characters triple := String.toList_ofList
  have length : (write triple).length = (characters triple).length := by
    rw [← String.length_toList, written]
  have admitted : ∀ character ∈ (write triple).toList, Admitted character := by
    intro character member
    rw [written] at member
    exact admitted_of_mem_characters member
  refine ⟨⟨Nat.toDigits 10 triple.formatId.number, _, written, decimal_toDigits _, ?_⟩, ?_, ?_,
    admitted, ?_, fun character member => (admitted character member).not_delicate⟩
  · rw [length, length_characters]
  · have digits := length_toDigits_of_valid valid
    have gtrid := length_component_le valid.2.1
    have bqual := length_component_le valid.2.2
    rw [length, length_characters]
    omega
  · rw [length]
    exact Base64.utf8ByteSize_of_isAscii fun _ member => (admitted_of_mem_characters member).isAscii
  · rw [written]
    exact count_separator_characters triple

end Flat

namespace BranchId

theorem writesDigits_of_extent {triple : Triple} {text : String} (valid : triple.Valid)
    (encoded : Flat.encode triple = .ok text)
    (extent : Flat.Extent triple.formatId.number triple.gtrid triple.bqual text) :
    triple.formatId.WritesDigits := by
  cases decimal : triple.formatId.decimal with
  | error refusal =>
      rw [Flat.encode_of_refusal decimal] at encoded
      cases encoded
  | ok number =>
      rw [Flat.encode_of_decimal valid decimal] at encoded
      cases encoded
      obtain ⟨digits, rest, laidOut, digitsDecimal, _⟩ := extent.leading
      cases digitsDecimal.eq_toDigits
      have separators := extent.separators
      rw [String.toList_ofList, Flat.Shape.join] at laidOut separators
      -- Both separators come after the number, which therefore ends where the digits end.
      have clean : Flat.separator ∉ number.toList := by
        simp only [Flat.separator, List.count_append, List.count_cons_self] at separators
        apply List.count_eq_zero.mp
        unfold Flat.separator
        omega
      have digitsClean : Flat.separator ∉ Nat.toDigits 10 triple.formatId.number :=
        Flat.separator_not_mem_digits
          (List.all_eq_true.mpr fun _ => Nat.isDigit_of_mem_toDigits (by decide) (by decide))
      obtain ⟨numberSame, _⟩ := Flat.front_eq_of_append_cons clean digitsClean laidOut
      rw [FormatId.WritesDigits, decimal, ← numberSame, String.ofList_toList]

theorem flat_text_extent_iff_writesDigits {id : BranchId} (obtained : Obtained id)
    (structured : id.isUnparsed = false) :
    ∃ (number : Nat) (gtrid bqual : String),
      (id.formatId = .int number ∨ ∃ look, id.formatId = .derived number look) ∧
      id.gtrid = .text gtrid ∧ id.bqual = .text bqual ∧
      ((∃ text, id.encode = .ok (.text text) ∧ Flat.Extent number gtrid bqual text) ↔
        id.form.WritesDigits) ∧
      (id.formatId.Usual →
        ∃ text, id.encode = .ok (.text text) ∧ Flat.Extent number gtrid bqual text) := by
  obtain ⟨form, prepared, owner, database⟩ := id
  cases form with
  | verbatim raw => cases structured
  | structured triple =>
      have valid : triple.Valid := obtained.canonical
      have written : ∀ _ : (Form.structured triple).WritesDigits, ∃ text,
          (Form.structured triple).encode = .ok (.text text) ∧
            Flat.Extent triple.formatId.number triple.gtrid triple.bqual text := by
        intro digits
        exact ⟨Flat.write triple, (Form.encode_eq_flat_iff obtained.canonical).mpr digits,
          Flat.extent_write valid⟩
      refine ⟨triple.formatId.number, triple.gtrid, triple.bqual,
        Value.formatIdValue_cases triple.formatId, rfl, rfl, ⟨?_, written⟩,
        fun usual => written (writesDigits_of_usual usual)⟩
      intro ⟨text, encoded, extent⟩
      exact writesDigits_of_extent valid (Form.encode_structured_eq_ok_iff.mp encoded) extent

theorem flat_text_extent_iff_writesDigits_longest :
    let gtrid := String.ofList (List.replicate 64 Text.apostrophe)
    let bqual := String.ofList (List.replicate 64 Text.backslash)
    let member : Value := .derived 0x7fffffff (.ofMember "Format" "LAST" 0x7fffffff)
    ∃ id text,
      ofValues member (.text gtrid) (.text bqual) = .ok id ∧ Obtained id ∧
      id.isUnparsed = false ∧ id.encode = .ok (.text text) ∧ text.length = 188 ∧
      text.toList.count '_' = 2 ∧ Text.apostrophe ∉ text.toList ∧ Text.backslash ∉ text.toList := by
  intro gtrid bqual member
  let formatId : FormatId := ⟨0x7fffffff, some (.ofMember "Format" "LAST" 0x7fffffff)⟩
  have made : ofValues member (.text gtrid) (.text bqual) =
      .ok (ofForm (.structured ⟨formatId, gtrid, bqual⟩)) := by
    apply ofValues_eq_ok_iff.mpr
    exact ⟨⟨formatId, gtrid, bqual⟩, by decide, rfl, rfl, rfl, rfl⟩
  obtain ⟨number, first, second, counted, gtridSame, bqualSame, _, written⟩ :=
    flat_text_extent_iff_writesDigits (.made made) rfl
  cases gtridSame
  cases bqualSame
  obtain ⟨text, encoded, extent⟩ :=
    written (.member "Format" "LAST" 0x7fffffff)
  rcases counted with impossible | ⟨look, derived⟩
  · cases impossible
  · cases derived
    obtain ⟨digits, rest, _, decimal, length⟩ := extent.leading
    cases decimal.eq_toDigits
    exact ⟨_, text, made, .made made, rfl, encoded, length.trans (by decide), extent.separators,
      fun member => extent.plain _ member (by decide),
      fun member => extent.plain _ member (by decide)⟩

/-- An identifier of a valid triple for which no text of that kind is written, since the class of
its number shows it by name. -/
theorem named_member_without_extent :
    let member : Value := .derived 7 (.ofNamed "Format" "PGJDBC" 7)
    ∃ id, ofValues member (.text "g") (.text "b") = .ok id ∧ id.isUnparsed = false ∧
      ∀ text, id.encode ≠ .ok text := by
  intro member
  refine ⟨_, rfl, rfl, ?_⟩
  intro text encoded
  cases encoded

end BranchId

end InDoubt
