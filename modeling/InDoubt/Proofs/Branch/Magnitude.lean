import InDoubt.Proofs.Branch.Refusals

namespace InDoubt

open Outcome

namespace Triple

def rangeReport (number : Int) : Fault :=
  .plain .invalid
    ("format_id out of range: must be a non-negative 32-bit integer, got " ++ number.repr)

theorem rangeFault_printedInt? (number : Int) :
    rangeFault (printedInt? number) =
      if number.natAbs < 10 ^ maxPrintedDigits then rangeReport number else .digitLimit := by
  rw [printedInt?_eq]
  split
  · rfl
  · rfl

variable {given : Value} {number : Int}

theorem checkFormatId_of_outside (whole : given.whole? = some number)
    (outside : number < 0 ∨ 0x7fffffff < number) :
    checkFormatId given = .error (.formatRange given) := by
  rcases Offer.checkFormatId_cases given with ⟨number', look, whole', checked⟩ | ⟨noNumber, _⟩
  · cases whole.symm.trans whole'
    rw [checked, checkRange, if_neg]
    unfold maxFormatId
    omega
  · cases whole.symm.trans noNumber

end Triple

namespace BranchId

open Triple

variable {given : Value} {number : Int}

theorem ofValues_of_outside (whole : given.whole? = some number)
    (outside : number < 0 ∨ 0x7fffffff < number) (gtrid bqual : Value) :
    ofValues given gtrid bqual = .error (rangeFault given.inserted?) := by
  apply ofValues_eq_error_iff.mpr
  refine ⟨.formatRange given, bind_eq_error_iff.mpr (.inl ?_), rfl⟩
  exact checkFormatId_of_outside whole outside

theorem rangeFault_reports_iff {inserted : Option String} :
    (∃ detail, rangeFault inserted = .plain .invalid ("format_id out of range: " ++ detail)) ↔
      ∃ text, inserted = some text := by
  cases inserted with
  | none => simp [rangeFault, Fault.digitLimit, Fault.plain]
  | some text =>
      refine iff_of_true ⟨"must be a non-negative 32-bit integer, got " ++ text, ?_⟩ ⟨text, rfl⟩
      rw [rangeFault, ← String.append_assoc]
      rfl

theorem out_of_range_reported_iff_printable (whole : given.whole? = some number)
    (outside : number < 0 ∨ 0x7fffffff < number) (gtrid bqual : Value) :
    ((∃ detail, ofValues given gtrid bqual =
        .error (.plain .invalid ("format_id out of range: " ++ detail))) ↔
      ∃ text, given.inserted? = some text) ∧
    ofValues given gtrid bqual = .error (rangeFault given.inserted?) ∧
    ((given = .int number ∨
        ∃ className memberName, given = .derived number (.ofMember className memberName number)) →
      ((∃ text, given.inserted? = some text) ↔ number.natAbs < 10 ^ maxPrintedDigits) ∧
        ofValues given gtrid bqual =
          .error (if number.natAbs < 10 ^ maxPrintedDigits then rangeReport number
            else .digitLimit)) := by
  have refused := ofValues_of_outside whole outside gtrid bqual
  refine ⟨?_, refused, ?_⟩
  · rw [refused]
    simpa using rangeFault_reports_iff
  · intro shown
    have digits : given.inserted? = printedInt? number := by
      rcases shown with rfl | ⟨className, memberName, rfl⟩
      · exact Value.inserted?_int number
      · rw [Value.inserted?, Look.ofMember]
    rw [refused, digits, rangeFault_printedInt?]
    exact ⟨printedInt?_accepts_iff, rfl⟩

theorem out_of_range_reported_negative :
    let member : Value := .derived (-1) (.ofMember "Format" "NONE" (-1))
    member.whole? = some (-1) ∧ ((-1 : Int) < 0 ∨ 0x7fffffff < (-1 : Int)) ∧
      ofValues member .null (.bytes []) =
        .error (.plain .invalid
          "format_id out of range: must be a non-negative 32-bit integer, got -1") := by
  intro member
  have whole : member.whole? = some (-1) := rfl
  have outside : (-1 : Int) < 0 ∨ 0x7fffffff < (-1 : Int) := .inl (by decide)
  have short : (-1 : Int).natAbs < 10 ^ maxPrintedDigits := short_of_digit (by decide)
  refine ⟨rfl, outside, ?_⟩
  obtain ⟨_, _, ofDigits⟩ := out_of_range_reported_iff_printable whole outside .null (.bytes [])
  rw [(ofDigits (.inr ⟨_, _, rfl⟩)).2, if_pos short]
  rfl

theorem outside_ten_pow {exponent : Nat} (long : maxPrintedDigits ≤ exponent) :
    (0x7fffffff : Int) < 10 ^ exponent := by
  have steps : 10 ≤ exponent := Nat.le_trans (by decide) long
  calc (0x7fffffff : Int) < 10 ^ 10 := by decide
    _ ≤ 10 ^ exponent := by exact_mod_cast Nat.pow_le_pow_right (by decide) steps

theorem ofValues_ten_pow {exponent : Nat} (long : maxPrintedDigits ≤ exponent)
    (gtrid bqual : Value) :
    ofValues (.int (10 ^ exponent)) gtrid bqual = .error .digitLimit := by
  rw [ofValues_of_outside rfl (.inr (outside_ten_pow long)), Value.inserted?_int,
    printedInt?_ten_pow long]
  rfl

/-- The least number that is too long to be printed is not reported as out of range. -/
theorem least_unprintable_not_reported :
    (0x7fffffff : Int) < 10 ^ 4300 ∧
      ofValues (.int (10 ^ 4300)) (.text "g") (.text "b") = .error .digitLimit ∧
      ¬∃ fault, ofValues (.int (10 ^ 4300)) (.text "g") (.text "b") = .error fault ∧
        fault.kind = .invalid := by
  have long : maxPrintedDigits ≤ 4300 := Nat.le_refl 4300
  have refused := ofValues_ten_pow long (.text "g") (.text "b")
  refine ⟨outside_ten_pow long, refused, ?_⟩
  intro reported
  obtain ⟨fault, same, invalid⟩ := reported
  cases refused.symm.trans same
  cases invalid

end BranchId

end InDoubt
