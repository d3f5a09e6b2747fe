import InDoubt.Branch.Reading
import InDoubt.Proofs.Branch.Acceptance
import InDoubt.Proofs.Flat.Fields

namespace InDoubt

def Triple.plain (triple : Triple) : Triple :=
  { triple with formatId := ⟨triple.formatId.number, none⟩ }

/-- The class of the number writes it as every plain number is written. -/
def FormatId.WritesDigits (formatId : FormatId) : Prop :=
  formatId.decimal = .ok (String.ofList (Nat.toDigits 10 formatId.number))

theorem FormatId.writesDigits_ofMember (className memberName : String) (number : Nat) :
    WritesDigits ⟨number, some (.ofMember className memberName number)⟩ := rfl

theorem Triple.plain_of_plain {triple : Triple} (plain : triple.formatId.look = none) :
    triple.plain = triple := by
  rw [Triple.plain, ← plain]

namespace Flat

open Outcome

theorem all_isAscii_of_valid {text : String} (valid : Part.Valid text) :
    text.toList.all Base64.isAscii = true := by
  rw [List.all_eq_true]
  intro character member
  have admitted := List.all_eq_true.mp valid.2 character member
  simp only [Part.admits, Bool.and_eq_true, decide_eq_true_eq] at admitted
  simp only [Base64.isAscii, decide_eq_true_eq]
  omega

theorem encode_of_decimal {triple : Triple} (valid : triple.Valid) {number : String}
    (decimal : triple.formatId.decimal = .ok number) :
    encode triple =
      .ok (String.ofList { Shape.ofTriple triple with digits := number.toList }.join) := by
  have gtridEncoded := Base64.encodeText_of_isAscii (all_isAscii_of_valid valid.2.1)
  have bqualEncoded := Base64.encodeText_of_isAscii (all_isAscii_of_valid valid.2.2)
  simp only [encode, bind_eq_ok_iff, mapError_eq_ok_iff, decimal, gtridEncoded, bqualEncoded]
  exact ⟨_, rfl, _, rfl, _, rfl, by simp [Shape.ofTriple]⟩

theorem encode_of_refusal {triple : Triple} {kind : FaultKind} {message : String}
    (refused : triple.formatId.decimal = .error (kind, message)) :
    encode triple = .error (.number kind message) := by
  rw [encode, refused]
  rfl

theorem encode_eq_write_iff {triple : Triple} (valid : triple.Valid) :
    encode triple = .ok (write triple) ↔ triple.formatId.WritesDigits := by
  unfold FormatId.WritesDigits
  cases decimal : triple.formatId.decimal with
  | error refusal => simp [encode_of_refusal decimal]
  | ok number =>
      rw [encode_of_decimal valid decimal, Except.ok.injEq, Except.ok.injEq, write, characters,
        String.ofList_inj, Shape.join, Shape.join]
      constructor
      · intro same
        exact String.toList_inj.mp ((List.append_cancel_right same).trans String.toList_ofList.symm)
      · rintro rfl
        rw [String.toList_ofList]
        rfl

theorem encode_of_plain {triple : Triple} (valid : triple.Valid)
    (plain : triple.formatId.look = none) : encode triple = .ok (write triple) := by
  apply (encode_eq_write_iff valid).mpr
  rw [FormatId.WritesDigits, FormatId.decimal, plain]

theorem write_plain (triple : Triple) : write triple.plain = write triple := rfl

theorem component_eq_ok_iff {shape : Shape} {part : Part} {text : String} :
    shape.component part = .ok text ↔
      Base64.decodeAscii (shape.field part) = .ok text.toList := by
  unfold Shape.component
  cases decoded : Base64.decodeAscii (shape.field part) with
  | error refusal => simp
  | ok content => simp [← String.toList_inj]

theorem number_eq_ok_iff {shape : Shape} {number : Nat} :
    shape.number = .ok number ↔
      shape.digits.length ≤ maxPrintedDigits ∧ Nat.ofDigitChars 10 shape.digits 0 = number := by
  unfold Shape.number
  split
  · next long => simp [Nat.not_le.mpr long]
  · next short => simp [Nat.not_lt.mp short]

theorem triple_eq_ok_iff {shape : Shape} {triple : Triple} :
    shape.triple = .ok triple ↔
      triple.Valid ∧ triple.formatId.look = none ∧
        shape.digits.length ≤ maxPrintedDigits ∧
        Nat.ofDigitChars 10 shape.digits 0 = triple.formatId.number ∧
        Base64.decodeAscii (shape.field .gtrid) = .ok triple.gtrid.toList ∧
        Base64.decodeAscii (shape.field .bqual) = .ok triple.bqual.toList := by
  simp only [Shape.triple, bind_eq_ok_iff, mapError_eq_ok_iff, component_eq_ok_iff,
    number_eq_ok_iff, Triple.ofValues_eq_ok_iff]
  constructor
  · intro spelled
    obtain ⟨gtrid, gtridRead, bqual, bqualRead, number, ⟨short, numberRead⟩, valid, formatSame,
      gtridSame, bqualSame⟩ := spelled
    obtain ⟨⟨formatNumber, look⟩, tripleGtrid, tripleBqual⟩ := triple
    cases gtridSame
    cases bqualSame
    cases look with
    | none =>
        have numberSame : (number : Int) = formatNumber := by
          simpa [Value.formatIdValue] using formatSame
        exact ⟨valid, rfl, short, numberRead.trans (Int.ofNat_inj.mp numberSame), gtridRead,
          bqualRead⟩
    | some look => simp [Value.formatIdValue] at formatSame
  · intro conditions
    obtain ⟨valid, plain, short, numberRead, gtridRead, bqualRead⟩ := conditions
    refine ⟨triple.gtrid, gtridRead, triple.bqual, bqualRead, triple.formatId.number,
      ⟨short, numberRead⟩, valid, ?_, rfl, rfl⟩
    simp [Value.formatIdValue, plain]

theorem isWrongValue_of_triple {shape : Shape} {refusal : Refusal}
    (refused : shape.triple = .error refusal) : refusal.fault.kind.isWrongValue = true := by
  unfold Shape.triple at refused
  have spellingRefused : ∀ {part : Part}, shape.component part = .error refusal →
      refusal.fault.kind.isWrongValue = true := by
    intro part componentRefused
    unfold Shape.component at componentRefused
    split at componentRefused
    · simp at componentRefused
    · next cause _ =>
      cases componentRefused
      cases cause <;> rfl
  rcases bind_eq_error_iff.mp refused with gtridRefused | ⟨gtrid, _, refused⟩
  · exact spellingRefused gtridRefused
  rcases bind_eq_error_iff.mp refused with bqualRefused | ⟨bqual, _, refused⟩
  · exact spellingRefused bqualRefused
  rcases bind_eq_error_iff.mp refused with numberRefused | ⟨number, _, refused⟩
  · unfold Shape.number at numberRefused
    split at numberRefused
    · cases numberRefused
      rfl
    · simp at numberRefused
  · obtain ⟨cause, tripleRefused, rfl⟩ := mapError_eq_error_iff.mp refused
    exact Triple.isWrongValue_of_ofValues tripleRefused

theorem length_toDigits_of_valid {triple : Triple} (valid : triple.Valid) :
    (Nat.toDigits 10 triple.formatId.number).length ≤ 10 := by
  have bound : triple.formatId.number ≤ 0x7fffffff := valid.1
  exact (Nat.length_toDigits_le_iff (by decide) (by decide)).mpr (by omega)

theorem length_digits_of_valid {triple : Triple} (valid : triple.Valid) :
    (Nat.toDigits 10 triple.formatId.number).length ≤ maxPrintedDigits :=
  calc
    (Nat.toDigits 10 triple.formatId.number).length ≤ 10 := length_toDigits_of_valid valid
    _ ≤ maxPrintedDigits := by decide

theorem triple_ofTriple {triple : Triple} (valid : triple.Valid) :
    (Shape.ofTriple triple).triple = .ok triple.plain := by
  rw [triple_eq_ok_iff]
  exact ⟨valid, rfl, length_digits_of_valid valid, Nat.ofDigitChars_ten_toDigits,
    Base64.decodeAscii_ofAscii (all_isAscii_of_valid valid.2.1),
    Base64.decodeAscii_ofAscii (all_isAscii_of_valid valid.2.2)⟩

theorem parse_of_triple {text : String} {shape : Shape} {triple : Triple}
    (matched : shape? text.toList = some shape) (spelled : shape.triple = .ok triple) :
    parse text = .ok (if write triple = text then some triple else none) := by
  obtain ⟨valid, plain, _⟩ := triple_eq_ok_iff.mp spelled
  simp only [parse, matched, spelled, encode_of_plain valid plain]

theorem parse_of_refusal {text : String} {shape : Shape} {refusal : Refusal}
    (matched : shape? text.toList = some shape) (refused : shape.triple = .error refusal) :
    parse text = .ok none := by
  simp only [parse, matched, refused, isWrongValue_of_triple refused, if_true]

theorem parse_of_mismatch {text : String} (unmatched : shape? text.toList = none) :
    parse text = .ok none := by
  simp only [parse, unmatched]

theorem parse_total (text : String) : ∃ found, parse text = .ok found := by
  cases matched : shape? text.toList with
  | none => exact ⟨none, parse_of_mismatch matched⟩
  | some shape =>
      cases spelled : shape.triple with
      | error refusal => exact ⟨none, parse_of_refusal matched spelled⟩
      | ok triple => exact ⟨_, parse_of_triple matched spelled⟩

theorem parse_write {triple : Triple} (valid : triple.Valid) :
    parse (write triple) = .ok (some triple.plain) := by
  have matched : shape? (write triple).toList = some (Shape.ofTriple triple) := by
    rw [write, String.toList_ofList, shape?_characters]
  rw [parse_of_triple matched (triple_ofTriple valid), write_plain, if_pos rfl]

theorem parse_eq_some_iff {text : String} {triple : Triple} :
    parse text = .ok (some triple) ↔
      triple.Valid ∧ triple.formatId.look = none ∧ write triple = text := by
  constructor
  · intro found
    cases matched : shape? text.toList with
    | none => simp [parse_of_mismatch matched] at found
    | some shape =>
        cases spelled : shape.triple with
        | error refusal => simp [parse_of_refusal matched spelled] at found
        | ok triple' =>
            simp only [parse_of_triple matched spelled, Except.ok.injEq] at found
            split at found
            · next written =>
              cases found
              obtain ⟨valid, plain, _⟩ := triple_eq_ok_iff.mp spelled
              exact ⟨valid, plain, written⟩
            · simp at found
  · intro conditions
    obtain ⟨valid, plain, rfl⟩ := conditions
    rw [parse_write valid, Triple.plain_of_plain plain]

theorem parse_eq_none_iff {text : String} : parse text = .ok none ↔ ¬IsFlat text := by
  constructor
  · intro notFound isFlat
    obtain ⟨triple, valid, rfl⟩ := isFlat
    simp [parse_write valid] at notFound
  · intro notFlat
    obtain ⟨found, parsed⟩ := parse_total text
    cases found with
    | none => exact parsed
    | some triple =>
        obtain ⟨valid, _, written⟩ := parse_eq_some_iff.mp parsed
        exact absurd ⟨triple, valid, written⟩ notFlat

theorem plain_eq_of_write_eq {left right : Triple} (leftValid : left.Valid)
    (rightValid : right.Valid) (same : write left = write right) : left.plain = right.plain := by
  have found := parse_write leftValid
  rw [same, parse_write rightValid] at found
  simpa using found.symm

end Flat

end InDoubt
