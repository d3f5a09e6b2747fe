import InDoubt.Proofs.Recovery.Rows
import InDoubt.Proofs.Value.Texts

namespace InDoubt

open Outcome

namespace Fault

def leaving (fault : Fault) : Fault :=
  if fault.kind.isOrdinary = true ∧ fault.text? = none then digitLimit else fault

theorem leaving_of_text {fault : Fault} {text : List Nat} (worded : fault.text? = some text) :
    fault.leaving = fault := by
  rw [leaving, if_neg]
  simp [worded]

theorem leaving_digitLimit : digitLimit.leaving = digitLimit :=
  leaving_of_text (text?_plain .wrongValue _ (by decide))

/-- A resource fault with a text: what the failure of a store is to become. -/
def Proper (fault : Fault) : Prop := fault.kind = .resource ∧ ∃ text, fault.text? = some text

theorem kind_leaving_of_unworded {fault : Fault} (unworded : fault.text? = none) :
    fault.leaving.kind ≠ .resource := by
  rw [leaving]
  split
  · simp [digitLimit]
  · next notBoth =>
    intro resource
    exact notBoth ⟨by simp [resource, FaultKind.isOrdinary], unworded⟩

theorem kind_leaving_eq_resource_iff {fault : Fault} :
    fault.leaving.kind = .resource ↔ fault.Proper := by
  cases words : fault.text? with
  | none => simp [Proper, words, kind_leaving_of_unworded words]
  | some text => simp [Proper, words, leaving_of_text words]

end Fault

namespace Span

theorem endWith_snd (span : Span) (fault : Fault) : (span.endWith fault).2 = fault.leaving := by
  unfold endWith Fault.leaving
  cases ordinary : fault.kind.isOrdinary with
  | false => simp
  | true =>
      cases words : fault.text? with
      | none => simp
      | some text => simp

end Span

namespace Trip

theorem logFailure_of_text {fault : Fault} {text : List Nat} (worded : fault.text? = some text) :
    logFailure fault = Course.act (.log (failed text)) := by
  simp only [logFailure, worded]

theorem logFailure_of_unworded {fault : Fault} (unworded : fault.text? = none) :
    logFailure fault = Course.fail .digitLimit := by
  simp only [logFailure, unworded]

theorem report_of_resource {fault : Fault} {text : List Nat} (resource : fault.kind = .resource)
    (worded : fault.text? = some text) :
    report fault = ⟨.error fault, [.count .failure, .log (failed text)]⟩ := by
  rw [report, if_pos resource, logFailure_of_text worded]
  rfl

theorem report_of_unworded {fault : Fault} (resource : fault.kind = .resource)
    (unworded : fault.text? = none) :
    report fault = ⟨.error .digitLimit, [.count .failure]⟩ := by
  rw [report, if_pos resource, logFailure_of_unworded unworded]
  rfl

theorem report_of_other {fault : Fault} (other : fault.kind ≠ .resource) :
    report fault = ⟨.error fault, []⟩ := if_neg other

theorem acts_report (fault : Fault) :
    (report fault).acts =
      if fault.kind = .resource then
        .count .failure :: (fault.text?.map fun text => .log (failed text)).toList
      else [] := by
  by_cases resource : fault.kind = .resource
  · rw [if_pos resource]
    cases words : fault.text? with
    | some text => rw [report_of_resource resource words]; rfl
    | none => rw [report_of_unworded resource words]; rfl
  · rw [if_neg resource, report_of_other resource]

theorem result_report (fault : Fault) : ∃ reported, (report fault).result = .error reported ∧
    reported.leaving = fault.leaving := by
  by_cases resource : fault.kind = .resource
  · cases words : fault.text? with
    | some text => exact ⟨fault, by rw [report_of_resource resource words], rfl⟩
    | none =>
        refine ⟨.digitLimit, by rw [report_of_unworded resource words], ?_⟩
        have ordinary : fault.kind.isOrdinary = true := by simp [resource, FaultKind.isOrdinary]
        rw [Fault.leaving_digitLimit, Fault.leaving, if_pos ⟨ordinary, words⟩]
  · exact ⟨fault, by rw [report_of_other resource], rfl⟩

variable {source : Source} {statement : String}

theorem attempt_of_ok {ids : List BranchId}
    (found : (source.identifiers statement).result = .ok ids) :
    attempt source statement =
      ⟨.ok ids, .log (started statement) :: (source.identifiers statement).acts⟩ := by
  rw [attempt, Course.rescue_of_ok found, Course.bind_of_ok (Course.result_act _), found]
  rfl

theorem attempt_of_error {fault reported : Fault}
    (failed : (source.identifiers statement).result = .error fault)
    (reportedResult : (report fault).result = .error reported) :
    attempt source statement =
      ⟨.error reported, .log (started statement) ::
        ((source.identifiers statement).acts ++ (report fault).acts)⟩ := by
  rw [attempt, Course.rescue_of_error failed, Course.bind_of_ok (Course.result_act _),
    reportedResult]
  rfl

theorem of_ok {ids : List BranchId} (found : (source.identifiers statement).result = .ok ids) :
    (recover source statement).outcome = .ok ids ∧
      (recover source statement).acts =
        .log (started statement) :: ((source.identifiers statement).acts ++
          (completion ids).acts) := by
  simp only [recover, attempt_of_ok found, List.cons_append, and_self]

theorem of_error {fault : Fault} (failed : (source.identifiers statement).result = .error fault) :
    (recover source statement).outcome = .error fault.leaving ∧
      (recover source statement).acts =
        .log (started statement) :: ((source.identifiers statement).acts ++
          (report fault).acts) := by
  obtain ⟨reported, reportedResult, sameLeaving⟩ := result_report fault
  simp only [recover, attempt_of_error failed reportedResult, Span.endWith_snd, sameLeaving,
    and_self]

theorem outcome_ok_iff_identifiers {ids : List BranchId} :
    (recover source statement).outcome = .ok ids ↔
      (source.identifiers statement).result = .ok ids := by
  cases reached : (source.identifiers statement).result with
  | ok found => rw [(of_ok reached).1]
  | error fault => simp [(of_error reached).1]

theorem outcome_error_iff_identifiers {fault : Fault} :
    (recover source statement).outcome = .error fault ↔
      ∃ met, (source.identifiers statement).result = .error met ∧ met.leaving = fault := by
  cases reached : (source.identifiers statement).result with
  | ok ids => simp [(of_ok reached).1]
  | error met => simp [(of_error reached).1]

theorem outcome_eq_ok_iff {ids : List BranchId} :
    (recover source statement).outcome = .ok ids ↔
      ∃ rows, (source.ask statement).result = .ok rows ∧ BranchId.ofRows rows = .ok ids := by
  rw [outcome_ok_iff_identifiers, Source.result_identifiers, bind_eq_ok_iff]

end Trip

end InDoubt
