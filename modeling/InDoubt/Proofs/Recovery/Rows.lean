import InDoubt.Proofs.Branch.Canonical
import InDoubt.Recovery.Trip

namespace InDoubt

open Outcome

theorem Row.identifier_eq_ok_iff {row : Row} {id : BranchId} :
    row.identifier = .ok id ↔
      ∃ form, Form.read row.gid = .ok form ∧
        ⟨form, row.prepared, row.owner, row.database⟩ = id := by
  unfold Row.identifier
  split
  · exact map_eq_ok_iff
  · next noText =>
    simp only [reduceCtorEq, false_iff]
    intro identified
    obtain ⟨form, found, _⟩ := identified
    exact noText (Form.isText_of_read found)

namespace BranchId

theorem ofRow_eq_ok_iff {value : Value} {id : BranchId} :
    ofRow value = .ok id ↔ ∃ row, Row.ofValue value = .ok row ∧ row.identifier = .ok id := by
  unfold ofRow
  cases taken : Row.ofValue value with
  | ok row => simp
  | error fault => simp

theorem result_takeEach (items : List Value) : (takeEach items).result = items.mapM ofRow := by
  induction items with
  | nil => rfl
  | cons value rest restTaken =>
      rw [List.mapM_cons, ← restTaken]
      rw [takeEach]
      simp only [Course.result_bind, Course.result_act, Course.result_ofResult]
      rfl

theorem ofRows_of_contents {rows : Value} {contents : Contents}
    (listed : rows.contents? = some contents) :
    ofRows rows = contents.items.mapM ofRow >>= fun ids =>
      match contents.failure with
      | none => .ok ids
      | some fault => .error (brokenOff fault) := by
  rw [ofRows, take]
  simp only [listed, Course.result_bind, result_takeEach]
  congr 1
  funext ids
  cases contents.failure with
  | none => rfl
  | some fault => rfl

theorem ofRows_eq_ok_iff {rows : Value} {ids : List BranchId} :
    ofRows rows = .ok ids ↔
      ∃ contents, rows.contents? = some contents ∧ contents.failure = none ∧
        contents.items.mapM ofRow = .ok ids := by
  cases listed : rows.contents? with
  | none => simp [ofRows, take, listed]
  | some contents =>
      rw [ofRows_of_contents listed, bind_eq_ok_iff]
      cases broken : contents.failure with
      | none => simp [broken]
      | some fault => simp [broken]

end BranchId

theorem Source.result_identifiers (source : Source) (statement : String) :
    (source.identifiers statement).result =
      (source.ask statement).result >>= BranchId.ofRows := by
  rw [identifiers, Course.result_bind]
  rfl

end InDoubt
