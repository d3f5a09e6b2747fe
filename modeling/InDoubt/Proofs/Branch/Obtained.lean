import InDoubt.Proofs.Recovery.Endings

namespace InDoubt

open Outcome BranchId

inductive Obtained : BranchId → Prop
  | made {formatId gtrid bqual : Value} {id : BranchId}
      (accepted : ofValues formatId gtrid bqual = .ok id) : Obtained id
  | decoded {given : Value} {id : BranchId} (read : decode given = .ok id) : Obtained id
  | ensured {candidate : Candidate} {id : BranchId}
      (known : ∀ earlier, candidate.identifier? = some earlier → Obtained earlier)
      (accepted : ensure candidate = .ok id) : Obtained id
  | recovered {rows : Value} {ids : List BranchId} {id : BranchId}
      (accepted : ofRows rows = .ok ids) (member : id ∈ ids) : Obtained id
  | listed {source : Source} {statement : String} {ids : List BranchId} {id : BranchId}
      (accepted : (recover source statement).outcome = .ok ids) (member : id ∈ ids) : Obtained id
  | attached {id : BranchId} (known : Obtained id) (prepared owner database : Value) :
      Obtained ⟨id.form, prepared, owner, database⟩

theorem canonical_of_ofValues {formatId gtrid bqual : Value} {id : BranchId}
    (accepted : ofValues formatId gtrid bqual = .ok id) : id.form.Canonical := by
  obtain ⟨triple, valid, _, _, _, rfl⟩ := ofValues_eq_ok_iff.mp accepted
  exact valid

theorem canonical_of_decode {given : Value} {id : BranchId} (read : decode given = .ok id) :
    id.form.Canonical := by
  obtain ⟨form, found, rfl⟩ := decode_eq_ok_iff.mp read
  exact (Form.canonical_of_read found).1

theorem ensure_cases {candidate : Candidate} {id : BranchId}
    (accepted : ensure candidate = .ok id) :
    candidate.identifier? = some id ∨ ∃ given, decode given = .ok id := by
  cases candidate with
  | identifier earlier =>
      cases accepted
      exact .inl rfl
  | value given =>
      cases given with
      | branch triple =>
          cases accepted
          exact .inl rfl
      | text text => exact .inr ⟨.text text, accepted⟩
      | brokenText codes broken => exact .inr ⟨.brokenText codes broken, accepted⟩
      | _ => simp [ensure, Value.isText, Value.codes?] at accepted

theorem canonical_of_ofRows {rows : Value} {ids : List BranchId} {id : BranchId}
    (accepted : ofRows rows = .ok ids) (member : id ∈ ids) : id.form.Canonical := by
  obtain ⟨contents, _, _, read⟩ := ofRows_eq_ok_iff.mp accepted
  obtain ⟨value, _, rowRead⟩ := exists_of_mem_mapM read member
  obtain ⟨row, _, identified⟩ := ofRow_eq_ok_iff.mp rowRead
  obtain ⟨form, found, rfl⟩ := Row.identifier_eq_ok_iff.mp identified
  exact (Form.canonical_of_read found).1

theorem Obtained.canonical {id : BranchId} (obtained : Obtained id) : id.form.Canonical := by
  induction obtained with
  | made accepted => exact canonical_of_ofValues accepted
  | decoded read => exact canonical_of_decode read
  | ensured _ accepted knownCanonical =>
      rcases ensure_cases accepted with same | ⟨given, read⟩
      · exact knownCanonical _ same
      · exact canonical_of_decode read
  | recovered accepted member => exact canonical_of_ofRows accepted member
  | listed accepted member =>
      obtain ⟨rows, _, found⟩ := Trip.outcome_eq_ok_iff.mp accepted
      exact canonical_of_ofRows found member
  | attached _ _ _ _ knownCanonical => exact knownCanonical

end InDoubt
