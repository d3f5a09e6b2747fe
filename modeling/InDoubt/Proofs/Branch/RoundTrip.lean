import InDoubt.Proofs.Branch.Canonical

namespace InDoubt

def Admissible (formatId gtrid bqual : Value) : Prop :=
  ∃ (number : Nat) (first second : String),
    (formatId = .int number ∨ ∃ look, formatId = .derived number look) ∧ number ≤ 0x7fffffff ∧
    gtrid = .text first ∧ Part.Valid first ∧ bqual = .text second ∧ Part.Valid second

namespace Value

theorem formatIdValue_cases (formatId : FormatId) :
    formatIdValue formatId = .int formatId.number ∨
      ∃ look, formatIdValue formatId = .derived formatId.number look := by
  obtain ⟨number, look⟩ := formatId
  cases look with
  | none => exact .inl rfl
  | some look => exact .inr ⟨look, rfl⟩

theorem same_formatIdValue (formatId : FormatId) (number : Nat) :
    (Value.int number).same (formatIdValue formatId) = true ↔ number = formatId.number := by
  rcases formatIdValue_cases formatId with plain | ⟨look, derived⟩
  · simp only [plain, same, number?, Number.same, beq_iff_eq, Int.ofNat_inj]
  · simp only [derived, same, number?, Number.same, beq_iff_eq, Int.ofNat_inj]

end Value

namespace BranchId

theorem accepted_iff_admissible {formatId gtrid bqual : Value} :
    (∃ id, ofValues formatId gtrid bqual = .ok id) ↔ Admissible formatId gtrid bqual := by
  constructor
  · intro someAccepted
    obtain ⟨id, accepted⟩ := someAccepted
    obtain ⟨triple, valid, rfl, rfl, rfl, _⟩ := ofValues_eq_ok_iff.mp accepted
    exact ⟨triple.formatId.number, triple.gtrid, triple.bqual,
      Value.formatIdValue_cases triple.formatId, valid.1, rfl, valid.2.1, rfl, valid.2.2⟩
  · intro admissible
    obtain ⟨number, first, second, rfl | ⟨look, rfl⟩, small, rfl, firstValid, rfl, secondValid⟩ :=
      admissible
    · refine ⟨ofForm (.structured ⟨⟨number, none⟩, first, second⟩), ?_⟩
      apply ofValues_eq_ok_iff.mpr
      exact ⟨⟨⟨number, none⟩, first, second⟩, ⟨small, firstValid, secondValid⟩, rfl, rfl, rfl, rfl⟩
    · refine ⟨ofForm (.structured ⟨⟨number, some look⟩, first, second⟩), ?_⟩
      apply ofValues_eq_ok_iff.mpr
      exact ⟨⟨⟨number, some look⟩, first, second⟩, ⟨small, firstValid, secondValid⟩, rfl, rfl, rfl,
        rfl⟩

theorem decode_write {triple : Triple} (valid : triple.Valid) :
    decode (.text (Flat.write triple)) = .ok (ofForm (.structured triple.plain)) := by
  apply decode_eq_ok_iff.mpr
  exact ⟨.structured triple.plain, Form.read_write valid, rfl⟩

/-- The text that an identifier is given reads as one with three given items. -/
def Restores (id : BranchId) (formatId gtrid bqual : Value) : Prop :=
  ∃ text again, id.encode = .ok (.text text) ∧ decode (.text text) = .ok again ∧
    again.isUnparsed = false ∧ again.formatId.same formatId = true ∧ again.gtrid = gtrid ∧
    again.bqual = bqual

theorem eq_write_of_decode {text : String} {again : BranchId} {triple : Triple}
    (read : decode (.text text) = .ok again) (structured : again.isUnparsed = false)
    (numberSame : again.formatId.same (Value.formatIdValue triple.formatId) = true)
    (gtridSame : again.gtrid = .text triple.gtrid) (bqualSame : again.bqual = .text triple.bqual) :
    text = Flat.write triple := by
  obtain ⟨form, found, rfl⟩ := decode_eq_ok_iff.mp read
  rcases Form.ofText_eq_ok found with ⟨triple', rfl, _, plain, rfl⟩ | ⟨rfl, _⟩
  · obtain ⟨⟨number, look⟩, gtrid, bqual⟩ := triple'
    cases plain
    cases gtridSame
    cases bqualSame
    have numberSame : (Value.int number).same (Value.formatIdValue triple.formatId) = true :=
      numberSame
    cases (Value.same_formatIdValue triple.formatId number).mp numberSame
    exact Flat.write_plain triple
  · cases structured

theorem restores_iff_of_ofValues {formatId gtrid bqual : Value} {id : BranchId}
    (accepted : ofValues formatId gtrid bqual = .ok id) :
    id.Restores formatId gtrid bqual ↔ id.form.WritesDigits := by
  obtain ⟨triple, valid, rfl, rfl, rfl, rfl⟩ := ofValues_eq_ok_iff.mp accepted
  have canonical : (Form.structured triple).Canonical := valid
  rw [ofForm, ← Form.encode_eq_flat_iff canonical]
  constructor
  · intro restores
    obtain ⟨text, again, encoded, read, structured, numberSame, gtridSame, bqualSame⟩ := restores
    rw [eq_write_of_decode read structured numberSame gtridSame bqualSame] at encoded
    exact encoded
  · intro encoded
    exact ⟨Flat.write triple, ofForm (.structured triple.plain), encoded, decode_write valid, rfl,
      (Value.same_formatIdValue triple.formatId _).mpr rfl, rfl, rfl⟩

theorem restores_iff_writesDigits (formatId gtrid bqual : Value) :
    ((∃ id, ofValues formatId gtrid bqual = .ok id) ↔ Admissible formatId gtrid bqual) ∧
      ∀ id, ofValues formatId gtrid bqual = .ok id →
        (id.Restores formatId gtrid bqual ↔ id.form.WritesDigits) ∧
        (formatId.Usual → id.Restores formatId gtrid bqual) := by
  refine ⟨accepted_iff_admissible, ?_⟩
  intro id accepted
  have restored := restores_iff_of_ofValues accepted
  refine ⟨restored, ?_⟩
  intro usual
  obtain ⟨triple, _, rfl, _, _, rfl⟩ := ofValues_eq_ok_iff.mp accepted
  exact restored.mpr (writesDigits_of_usual usual)

theorem restores_iff_writesDigits_member :
    let member : Value := .derived 7 (.ofMember "Format" "PGJDBC" 7)
    ∃ id, ofValues member (.text "a_b=+/") (.text "") = .ok id ∧
      id.Restores member (.text "a_b=+/") (.text "") := by
  intro member
  obtain ⟨accepted, restored⟩ := restores_iff_writesDigits member (.text "a_b=+/") (.text "")
  have admissible : Admissible member (.text "a_b=+/") (.text "") :=
    ⟨7, "a_b=+/", "", .inr ⟨_, rfl⟩, by decide, rfl, by decide, rfl, by decide⟩
  obtain ⟨id, made⟩ := accepted.mpr admissible
  exact ⟨id, made, (restored id made).2 (.member "Format" "PGJDBC" 7)⟩

/-- A member that shows by its name is accepted, and then has no flat text. -/
theorem named_member_not_encoded :
    let member : Value := .derived 7 (.ofNamed "Format" "PGJDBC" 7)
    ∃ id, ofValues member (.text "g") (.text "b") = .ok id ∧
      id.encode =
        .error (.plain .wrongValue "Unknown format code 'd' for object of type 'str'") ∧
      ¬id.Restores member (.text "g") (.text "b") := by
  intro member
  refine ⟨_, rfl, rfl, ?_⟩
  intro restores
  obtain ⟨text, again, encoded, _⟩ := restores
  cases encoded

end BranchId

end InDoubt
