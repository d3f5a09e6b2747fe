import InDoubt.Proofs.Flat.Exactness

namespace InDoubt.Flat

inductive Failure : Value → Prop
  | surrogate (codes : List Nat) (broken : codes.all Text.isCharacter = false) :
      Failure (.brokenText codes broken)
  | mismatch {text : String} (unmatched : shape? text.toList = none) : Failure (.text text)
  | spelling {text : String} {shape : Shape} {cause : Base64.Refusal} (part : Part)
      (matched : shape? text.toList = some shape)
      (refused : Base64.decodeAscii (shape.field part) = .error cause) : Failure (.text text)
  | tooManyDigits {text : String} {shape : Shape}
      (matched : shape? text.toList = some shape)
      (long : maxPrintedDigits < shape.digits.length) : Failure (.text text)
  | range {text : String} {shape : Shape}
      (matched : shape? text.toList = some shape)
      (large : Triple.maxFormatId < Nat.ofDigitChars 10 shape.digits 0) : Failure (.text text)
  | length {text : String} {shape : Shape} {content : List Char} (part : Part)
      (matched : shape? text.toList = some shape)
      (decoded : Base64.decodeAscii (shape.field part) = .ok content)
      (long : Part.maxLength < content.length) : Failure (.text text)
  | character {text : String} {shape : Shape} {content : List Char} {character : Char}
      (part : Part) (matched : shape? text.toList = some shape)
      (decoded : Base64.decodeAscii (shape.field part) = .ok content)
      (member : character ∈ content) (foreign : Part.admits character = false) :
      Failure (.text text)
  | respelled {text : String} {shape : Shape} {triple : Triple}
      (matched : shape? text.toList = some shape) (spelled : shape.triple = .ok triple)
      (different : write triple ≠ text) : Failure (.text text)

theorem shape_of_parse_eq_some {text : String} {triple : Triple}
    (found : parse text = .ok (some triple)) :
    ∃ shape, shape? text.toList = some shape ∧ shape.triple = .ok triple ∧
      write triple = text := by
  obtain ⟨valid, plain, rfl⟩ := parse_eq_some_iff.mp found
  refine ⟨Shape.ofTriple triple, ?_, ?_, rfl⟩
  · rw [write, String.toList_ofList, shape?_characters]
  · rw [triple_ofTriple valid, Triple.plain_of_plain plain]

theorem valid_of_decoded {shape : Shape} {triple : Triple} {content : List Char}
    (spelled : shape.triple = .ok triple) (part : Part)
    (decoded : Base64.decodeAscii (shape.field part) = .ok content) :
    Part.Valid (String.ofList content) := by
  obtain ⟨valid, _, _, _, gtridDecoded, bqualDecoded⟩ := triple_eq_ok_iff.mp spelled
  cases part with
  | gtrid =>
      cases decoded.symm.trans gtridDecoded
      rw [String.ofList_toList]
      exact valid.2.1
  | bqual =>
      cases decoded.symm.trans bqualDecoded
      rw [String.ofList_toList]
      exact valid.2.2

theorem not_failure_of_parse_eq_some {text : String} {triple : Triple}
    (found : parse text = .ok (some triple)) : ¬Failure (.text text) := by
  obtain ⟨shape, matched, spelled, written⟩ := shape_of_parse_eq_some found
  obtain ⟨valid, _, short, number, gtridDecoded, bqualDecoded⟩ := triple_eq_ok_iff.mp spelled
  intro failure
  cases failure with
  | mismatch unmatched => simp [unmatched] at matched
  | spelling part matched' refused =>
      cases matched.symm.trans matched'
      cases part with
      | gtrid => simp [gtridDecoded] at refused
      | bqual => simp [bqualDecoded] at refused
  | tooManyDigits matched' long =>
      cases matched.symm.trans matched'
      omega
  | range matched' large =>
      cases matched.symm.trans matched'
      have small := valid.1
      omega
  | length part matched' decoded long =>
      cases matched.symm.trans matched'
      have short := (valid_of_decoded spelled part decoded).1
      rw [String.toList_ofList] at short
      omega
  | character part matched' decoded member foreign =>
      cases matched.symm.trans matched'
      have admitted := (valid_of_decoded spelled part decoded).2
      rw [String.toList_ofList, List.all_eq_true] at admitted
      simp [admitted _ member] at foreign
  | respelled matched' spelled' different =>
      cases matched.symm.trans matched'
      cases spelled.symm.trans spelled'
      exact different written

theorem spelled_of_valid {shape : Shape} {gtrid bqual : List Char}
    (short : shape.digits.length ≤ maxPrintedDigits)
    (small : Nat.ofDigitChars 10 shape.digits 0 ≤ Triple.maxFormatId)
    (gtridValid : Part.Valid (String.ofList gtrid)) (bqualValid : Part.Valid (String.ofList bqual))
    (gtridDecoded : Base64.decodeAscii (shape.field .gtrid) = .ok gtrid)
    (bqualDecoded : Base64.decodeAscii (shape.field .bqual) = .ok bqual) :
    ∃ triple, shape.triple = .ok triple := by
  refine ⟨⟨⟨Nat.ofDigitChars 10 shape.digits 0, none⟩, String.ofList gtrid,
    String.ofList bqual⟩, ?_⟩
  apply triple_eq_ok_iff.mpr
  refine ⟨⟨small, gtridValid, bqualValid⟩, rfl, short, rfl, ?_, ?_⟩
  · rw [String.toList_ofList]
    exact gtridDecoded
  · rw [String.toList_ofList]
    exact bqualDecoded

theorem failure_of_invalid {text : String} {shape : Shape} {content : List Char} (part : Part)
    (matched : shape? text.toList = some shape)
    (decoded : Base64.decodeAscii (shape.field part) = .ok content)
    (invalid : ¬Part.Valid (String.ofList content)) : Failure (.text text) := by
  by_cases long : Part.maxLength < content.length
  · exact .length part matched decoded long
  by_cases admitted : content.all Part.admits = true
  · refine absurd ⟨?_, ?_⟩ invalid
    · rw [String.toList_ofList]
      exact Nat.not_lt.mp long
    · rw [String.toList_ofList]
      exact admitted
  · rw [Bool.not_eq_true, List.all_eq_false] at admitted
    obtain ⟨character, member, foreign⟩ := admitted
    exact .character part matched decoded member (Bool.not_eq_true _ ▸ foreign)

theorem failure_of_parse_eq_none {text : String} (notFound : parse text = .ok none) :
    Failure (.text text) := by
  cases matched : shape? text.toList with
  | none => exact .mismatch matched
  | some shape =>
      cases spelled : shape.triple with
      | ok triple =>
          refine .respelled matched spelled ?_
          intro written
          simp [parse_of_triple matched spelled, written] at notFound
      | error refusal =>
          -- Some condition of spelling a triple fails; they are tried in turn.
          cases gtridDecoded : Base64.decodeAscii (shape.field .gtrid) with
          | error cause => exact .spelling .gtrid matched gtridDecoded
          | ok gtrid =>
              cases bqualDecoded : Base64.decodeAscii (shape.field .bqual) with
              | error cause => exact .spelling .bqual matched bqualDecoded
              | ok bqual =>
                  by_cases long : maxPrintedDigits < shape.digits.length
                  · exact .tooManyDigits matched long
                  by_cases large : Triple.maxFormatId < Nat.ofDigitChars 10 shape.digits 0
                  · exact .range matched large
                  by_cases gtridValid : Part.Valid (String.ofList gtrid)
                  · refine failure_of_invalid .bqual matched bqualDecoded ?_
                    intro bqualValid
                    obtain ⟨triple, found⟩ := spelled_of_valid (Nat.not_lt.mp long)
                      (Nat.not_lt.mp large) gtridValid bqualValid gtridDecoded bqualDecoded
                    cases spelled.symm.trans found
                  · exact failure_of_invalid .gtrid matched gtridDecoded gtridValid

theorem failure_iff {text : String} : Failure (.text text) ↔ parse text = .ok none := by
  constructor
  · intro failure
    obtain ⟨found, parsed⟩ := parse_total text
    cases found with
    | none => exact parsed
    | some triple => exact absurd failure (not_failure_of_parse_eq_some parsed)
  · exact failure_of_parse_eq_none

end InDoubt.Flat
