import InDoubt.Branch.Checked
import InDoubt.Proofs.Outcome
import InDoubt.Value.Contents

namespace InDoubt.Triple

open Outcome

theorem checkRange_eq_ok_iff {given : Value} {number : Int} {look : Option Look}
    {formatId : FormatId} :
    checkRange given number look = .ok formatId ↔
      formatId.number ≤ maxFormatId ∧ number = formatId.number ∧ look = formatId.look := by
  unfold checkRange
  constructor
  · intro accepted
    split at accepted
    · next range =>
      cases accepted
      exact ⟨Int.toNat_le.mpr range.2, (Int.toNat_of_nonneg range.1).symm, rfl⟩
    · simp at accepted
  · intro conditions
    obtain ⟨small, rfl, rfl⟩ := conditions
    rw [if_pos ⟨Int.natCast_nonneg _, Int.ofNat_le.mpr small⟩]
    rfl

theorem checkFormatId_eq_ok_iff {given : Value} {formatId : FormatId} :
    checkFormatId given = .ok formatId ↔
      formatId.number ≤ maxFormatId ∧ given = Value.formatIdValue formatId := by
  constructor
  · intro accepted
    cases given with
    | int number =>
        obtain ⟨small, rfl, plain⟩ := checkRange_eq_ok_iff.mp accepted
        exact ⟨small, by simp [Value.formatIdValue, ← plain]⟩
    | derived number look =>
        obtain ⟨small, rfl, derived⟩ := checkRange_eq_ok_iff.mp accepted
        exact ⟨small, by simp [Value.formatIdValue, ← derived]⟩
    | _ => simp [checkFormatId] at accepted
  · intro conditions
    obtain ⟨small, rfl⟩ := conditions
    obtain ⟨number, look⟩ := formatId
    cases look with
    | none => exact checkRange_eq_ok_iff.mpr ⟨small, rfl, rfl⟩
    | some look => exact checkRange_eq_ok_iff.mpr ⟨small, rfl, rfl⟩

theorem isCharacter_of_admitsCode {code : Nat} (admitted : Part.admitsCode code = true) :
    Text.isCharacter code = true := by
  simp only [Part.admitsCode, Bool.and_eq_true, decide_eq_true_eq] at admitted
  simp only [Text.isCharacter, Text.isSurrogate, Bool.and_eq_true, Bool.not_eq_true',
    Bool.and_eq_false_iff, decide_eq_false_iff_not, decide_eq_true_eq]
  omega

theorem ofNat_toNat_characters (characters : List Char) :
    (characters.map Char.toNat).map Char.ofNat = characters := by
  rw [List.map_map]
  exact List.map_id'' Char.ofNat_toNat characters

theorem admits_ofNat {code : Nat} (admitted : Part.admitsCode code = true) :
    Part.admits (Char.ofNat code) = true := by
  have bounds : 0x20 ≤ code ∧ code ≤ 0x7e := by simpa [Part.admitsCode] using admitted
  rw [← Part.admitsCode_toNat, Base64.toNat_ofNat_of_ascii (by omega)]
  exact admitted

theorem checkCodes_eq_ok_iff {part : Part} {codes : List Nat} {characters : List Char} :
    checkCodes part codes = .ok characters ↔
      codes.length ≤ Part.maxLength ∧ (∀ code ∈ codes, Part.admitsCode code = true) ∧
        codes.map Char.ofNat = characters := by
  unfold checkCodes
  split
  · next long => simp [Nat.not_le.mpr long]
  · next short =>
    cases found : codes.find? fun code => !Part.admitsCode code with
    | some code =>
        have member := List.mem_of_find?_eq_some found
        have foreign : Part.admitsCode code = false := by simpa using List.find?_some found
        simp only [reduceCtorEq, false_iff]
        intro conditions
        obtain ⟨_, admitted, _⟩ := conditions
        simp [admitted code member] at foreign
    | none =>
        have admitted : ∀ code ∈ codes, Part.admitsCode code = true := by simpa using found
        simp only [Except.ok.injEq]
        exact ⟨fun same => ⟨Nat.not_lt.mp short, admitted, same⟩, fun accepted => accepted.2.2⟩

theorem valid_of_checkCodes {part : Part} {codes : List Nat} {characters : List Char}
    (accepted : checkCodes part codes = .ok characters) :
    Part.Valid (String.ofList characters) := by
  obtain ⟨short, admitted, rfl⟩ := checkCodes_eq_ok_iff.mp accepted
  unfold Part.Valid
  rw [String.toList_ofList]
  refine ⟨?_, List.all_eq_true.mpr ?_⟩
  · rw [List.length_map]
    exact short
  · intro character member
    obtain ⟨code, codeMember, rfl⟩ := List.mem_map.mp member
    exact admits_ofNat (admitted code codeMember)

theorem checkPart_eq_ok_iff {part : Part} {given : Value} {text : String} :
    checkPart part given = .ok text ↔ given = .text text ∧ Part.Valid text := by
  constructor
  · intro accepted
    unfold checkPart at accepted
    cases given with
    | text given =>
        obtain ⟨characters, checked, rfl⟩ := map_eq_ok_iff.mp accepted
        obtain ⟨_, _, restored⟩ := checkCodes_eq_ok_iff.mp checked
        rw [ofNat_toNat_characters] at restored
        refine ⟨?_, valid_of_checkCodes checked⟩
        rw [← restored, String.ofList_toList]
    | brokenText codes broken =>
        obtain ⟨characters, checked, _⟩ := map_eq_ok_iff.mp accepted
        obtain ⟨_, admitted, _⟩ := checkCodes_eq_ok_iff.mp checked
        have whole : codes.all Text.isCharacter = true := by
          rw [List.all_eq_true]
          exact fun code member => isCharacter_of_admitsCode (admitted code member)
        cases whole.symm.trans broken
    | _ => simp [Value.codes?] at accepted
  · intro conditions
    obtain ⟨rfl, short, admitted⟩ := conditions
    apply map_eq_ok_iff.mpr
    refine ⟨text.toList, checkCodes_eq_ok_iff.mpr ⟨?_, ?_, ?_⟩, String.ofList_toList⟩
    · rw [List.length_map]
      exact short
    · intro code member
      obtain ⟨character, characterMember, rfl⟩ := List.mem_map.mp member
      exact List.all_eq_true.mp admitted character characterMember
    · exact ofNat_toNat_characters text.toList

theorem ofValues_eq_ok_iff {formatId gtrid bqual : Value} {triple : Triple} :
    ofValues formatId gtrid bqual = .ok triple ↔
      triple.Valid ∧ formatId = Value.formatIdValue triple.formatId ∧
        gtrid = .text triple.gtrid ∧ bqual = .text triple.bqual := by
  simp only [ofValues, bind_eq_ok_iff, checkFormatId_eq_ok_iff, checkPart_eq_ok_iff]
  constructor
  · intro steps
    obtain ⟨format, ⟨small, rfl⟩, first, ⟨rfl, firstValid⟩, second, ⟨rfl, secondValid⟩, made⟩ :=
      steps
    cases made
    exact ⟨⟨small, firstValid, secondValid⟩, rfl, rfl, rfl⟩
  · intro conditions
    obtain ⟨⟨small, firstValid, secondValid⟩, rfl, rfl, rfl⟩ := conditions
    exact ⟨triple.formatId, ⟨small, rfl⟩, triple.gtrid, ⟨rfl, firstValid⟩, triple.bqual,
      ⟨rfl, secondValid⟩, rfl⟩

theorem isWrongValue_rangeFault (printed : Option String) :
    (rangeFault printed).kind.isWrongValue = true := by
  cases printed with
  | none => rfl
  | some number => rfl

theorem isWrongValue_of_checkRange {given : Value} {number : Int} {look : Option Look}
    {refusal : Refusal} (refused : checkRange given number look = .error refusal) :
    refusal.fault.kind.isWrongValue = true := by
  unfold checkRange at refused
  split at refused
  · simp at refused
  · cases refused
    exact isWrongValue_rangeFault given.inserted?

theorem isWrongValue_of_checkCodes {part : Part} {codes : List Nat} {refusal : Refusal}
    (refused : checkCodes part codes = .error refusal) :
    refusal.fault.kind.isWrongValue = true := by
  unfold checkCodes at refused
  split at refused
  · cases refused
    rfl
  · split at refused
    · cases refused
      rfl
    · simp at refused

theorem isWrongValue_of_ofValues {number : Int} {gtrid bqual : String} {refusal : Refusal}
    (refused : ofValues (.int number) (.text gtrid) (.text bqual) = .error refusal) :
    refusal.fault.kind.isWrongValue = true := by
  unfold ofValues at refused
  rcases bind_eq_error_iff.mp refused with formatRefused | ⟨formatId, _, refused⟩
  · exact isWrongValue_of_checkRange formatRefused
  rcases bind_eq_error_iff.mp refused with gtridRefused | ⟨_, _, refused⟩
  · exact isWrongValue_of_checkCodes (map_eq_error_iff.mp gtridRefused)
  rcases bind_eq_error_iff.mp refused with bqualRefused | ⟨_, _, refused⟩
  · exact isWrongValue_of_checkCodes (map_eq_error_iff.mp bqualRefused)
  · simp at refused

end InDoubt.Triple
