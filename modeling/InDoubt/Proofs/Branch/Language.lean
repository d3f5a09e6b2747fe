import InDoubt.Proofs.Branch.Canonical
import InDoubt.Proofs.Flat.Spelling

namespace InDoubt

theorem Form.read_of_spelled {given : Value} {number : Nat} {gtrid bqual : String}
    (spelled : Flat.Spelled given number gtrid bqual) :
    read given = .ok (.structured ⟨⟨number, none⟩, gtrid, bqual⟩) := by
  obtain ⟨valid, rfl⟩ := Flat.spelled_iff.mp spelled
  exact read_write valid

theorem Form.spelled_of_read {given : Value} {triple : Triple}
    (found : read given = .ok (.structured triple)) :
    Flat.Spelled given triple.formatId.number triple.gtrid triple.bqual := by
  obtain ⟨valid, written⟩ := canonical_of_read found
  apply Flat.spelled_iff.mpr
  exact ⟨valid, written.symm⟩

namespace BranchId

theorem decode_language {given : Value} (isText : given.isText = true) :
    ∃ id, decode given = .ok id ∧
      (id.isUnparsed = false ↔ ∃ number gtrid bqual, Flat.Spelled given number gtrid bqual) ∧
      (∀ number gtrid bqual, Flat.Spelled given number gtrid bqual →
        id.formatId = .int number ∧ id.gtrid = .text gtrid ∧ id.bqual = .text bqual) ∧
      (id.isUnparsed = true → id.formatId = .null ∧ id.gtrid = given ∧ id.bqual = .null) := by
  obtain ⟨form, found⟩ := Form.read_total isText
  refine ⟨ofForm form, ?_, ?_, ?_, ?_⟩
  · apply decode_eq_ok_iff.mpr
    exact ⟨form, found, rfl⟩
  · constructor
    · intro structured
      cases form with
      | structured triple => exact ⟨_, _, _, Form.spelled_of_read found⟩
      | verbatim raw => cases structured
    · intro someSpelled
      obtain ⟨number, gtrid, bqual, spelled⟩ := someSpelled
      cases found.symm.trans (Form.read_of_spelled spelled)
      rfl
  · intro number gtrid bqual spelled
    cases found.symm.trans (Form.read_of_spelled spelled)
    exact ⟨rfl, rfl, rfl⟩
  · intro unparsed
    cases form with
    | structured triple => cases unparsed
    | verbatim raw =>
        obtain ⟨_, rfl⟩ := Form.canonical_of_read found
        exact ⟨rfl, rfl, rfl⟩

theorem decode_language_spelled :
    (Value.text "42_Z3RyaWQ=_YnF1YWw=").isText = true ∧
      ∃ id, decode (.text "42_Z3RyaWQ=_YnF1YWw=") = .ok id ∧ id.isUnparsed = false ∧
        id.formatId = .int 42 ∧ id.gtrid = .text "gtrid" ∧ id.bqual = .text "bqual" := by
  have isText : (Value.text "42_Z3RyaWQ=_YnF1YWw=").isText = true := rfl
  have valid : (Triple.mk ⟨42, none⟩ "gtrid" "bqual").Valid := by decide
  have written : "42_Z3RyaWQ=_YnF1YWw=" = Flat.write ⟨⟨42, none⟩, "gtrid", "bqual"⟩ := by decide
  have spelled : Flat.Spelled (.text "42_Z3RyaWQ=_YnF1YWw=") 42 "gtrid" "bqual" := by
    apply Flat.spelled_iff.mpr
    exact ⟨valid, congrArg Value.text written⟩
  obtain ⟨id, decoded, structured, parts, _⟩ := decode_language isText
  exact ⟨isText, id, decoded, structured.mpr ⟨_, _, _, spelled⟩, parts _ _ _ spelled⟩

end BranchId

end InDoubt
