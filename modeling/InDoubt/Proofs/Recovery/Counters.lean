import InDoubt.Proofs.Recovery.Acts
import InDoubt.Proofs.Value.Printed

namespace InDoubt

namespace Tally

variable {before middle after : Tally Nat}

theorem record_comm (tally : Tally Nat) (first second : Increase) :
    (tally.record first).record second = (tally.record second).record first := by
  cases first <;> cases second <;> simp [record, add, Count.plus, Nat.add_right_comm]

theorem recordAll_perm {increases permuted : List Increase} (tally : Tally Nat)
    (same : increases.Perm permuted) : tally.recordAll increases = tally.recordAll permuted := by
  apply same.foldl_eq'
  intro first _ second _ reached
  exact record_comm reached first second

theorem recordAll_append (tally : Tally Nat) (earlier later : List Increase) :
    tally.recordAll (earlier ++ later) = (tally.recordAll earlier).recordAll later :=
  List.foldl_append

theorem getLast_running (tally : Tally Nat) (lots : List (List Increase)) :
    (tally.running lots).getLast?.getD tally = tally.recordAll lots.flatten := by
  induction lots generalizing tally with
  | nil => rfl
  | cons increases rest restRecorded =>
      rw [List.flatten_cons, recordAll_append, ← restRecorded, running, List.getLast?_cons]
      rfl

/-- What counters gain: successes, each with a duration, failures, and identifiers of either
form. -/
structure Gains (before after : Tally Nat) (successes failures structured unparsed : Nat) :
    Prop where
  success : after.success.getD 0 = before.success.getD 0 + successes
  error : after.error.getD 0 = before.error.getD 0 + failures
  structured : after.structured.getD 0 = before.structured.getD 0 + structured
  unparsed : after.unparsed.getD 0 = before.unparsed.getD 0 + unparsed
  durations : after.durations = before.durations + successes

namespace Gains

theorem refl (tally : Tally Nat) : tally.Gains tally 0 0 0 0 := ⟨rfl, rfl, rfl, rfl, rfl⟩

theorem trans {successes failures structured unparsed moreSuccesses moreFailures moreStructured
      moreUnparsed : Nat} (first : before.Gains middle successes failures structured unparsed)
    (second : middle.Gains after moreSuccesses moreFailures moreStructured moreUnparsed) :
    before.Gains after (successes + moreSuccesses) (failures + moreFailures)
      (structured + moreStructured) (unparsed + moreUnparsed) where
  success := by rw [second.success, first.success, Nat.add_assoc]
  error := by rw [second.error, first.error, Nat.add_assoc]
  structured := by rw [second.structured, first.structured, Nat.add_assoc]
  unparsed := by rw [second.unparsed, first.unparsed, Nat.add_assoc]
  durations := by rw [second.durations, first.durations, Nat.add_assoc]

end Gains

end Tally

/-- Whether a resource fault is met that has no text: it is counted, but another one leaves the
trip, because its text is needed for the log. -/
def Source.failsUnworded (source : Source) (statement : String) : Bool :=
  match (source.identifiers statement).result with
  | .ok _ => false
  | .error fault => fault.kind = .resource && fault.text?.isNone

namespace Trip

def returned (trip : Trip) : Bool := trip.outcome.isOk

def ids (trip : Trip) : List BranchId :=
  match trip.outcome with
  | .ok ids => ids
  | .error _ => []

def endsInResource (trip : Trip) : Bool :=
  match trip.outcome with
  | .ok _ => false
  | .error fault => fault.kind = .resource

variable {source : Source} {statement : String}

theorem recordAll_of_ok {ids : List BranchId} (tally : Tally Nat)
    (delivered : (recover source statement).outcome = .ok ids) :
    tally.recordAll (recover source statement).increases =
      { success := Tally.add tally.success 1
        error := tally.error
        structured := Tally.add tally.structured (ids.length - countUnparsed ids)
        unparsed := Tally.add tally.unparsed (countUnparsed ids)
        durations := tally.durations + 1 } := by
  rw [increases_of_ok (outcome_ok_iff_identifiers.mp delivered)]
  rfl

theorem recordAll_of_error {fault : Fault} (tally : Tally Nat)
    (failed : (recover source statement).outcome = .error fault) :
    tally.recordAll (recover source statement).increases =
      if fault.kind = .resource ∨ source.failsUnworded statement = true then
        { tally with error := Tally.add tally.error 1 }
      else tally := by
  obtain ⟨met, reached, rfl⟩ := outcome_error_iff_identifiers.mp failed
  have counted : (met.leaving.kind = .resource ∨ source.failsUnworded statement = true) ↔
      met.kind = .resource := by
    rw [Fault.kind_leaving_eq_resource_iff, Source.failsUnworded, reached, Fault.Proper]
    cases words : met.text? with
    | none => simp [words]
    | some text => simp [words]
  rw [increases_of_error reached]
  by_cases resource : met.kind = .resource
  · rw [if_pos resource, if_pos (counted.mpr resource)]
    rfl
  · rw [if_neg resource, if_neg (fun either => resource (counted.mp either))]
    rfl

theorem kind_ne_resource_of_failsUnworded {fault : Fault}
    (failed : (recover source statement).outcome = .error fault)
    (unworded : source.failsUnworded statement = true) : fault.kind ≠ .resource := by
  obtain ⟨met, reached, rfl⟩ := outcome_error_iff_identifiers.mp failed
  refine Fault.kind_leaving_of_unworded ?_
  simp only [Source.failsUnworded, reached, Bool.and_eq_true] at unworded
  exact Option.isNone_iff_eq_none.mp unworded.2

theorem failsUnworded_of_ok {ids : List BranchId}
    (delivered : (recover source statement).outcome = .ok ids) :
    source.failsUnworded statement = false := by
  simp only [Source.failsUnworded, outcome_ok_iff_identifiers.mp delivered]

theorem length_sub_countUnparsed (ids : List BranchId) :
    ids.length - countUnparsed ids = ids.countP (!·.isUnparsed) := by
  rw [ids.length_eq_countP_add_countP BranchId.isUnparsed, countUnparsed, Nat.add_sub_cancel_left]
  exact congrArg (ids.countP ·) (funext fun id => by cases id.isUnparsed <;> rfl)

theorem gains (source : Source) (statement : String) (tally : Tally Nat) :
    let trip := recover source statement
    tally.Gains (tally.recordAll trip.increases) (if trip.returned then 1 else 0)
      ((if trip.endsInResource then 1 else 0) + if source.failsUnworded statement then 1 else 0)
      (trip.ids.countP (!·.isUnparsed)) (trip.ids.countP BranchId.isUnparsed) := by
  intro trip
  cases ended : trip.outcome with
  | ok ids =>
      rw [recordAll_of_ok tally ended, failsUnworded_of_ok ended, length_sub_countUnparsed]
      simp only [returned, endsInResource, Trip.ids, ended]
      exact ⟨rfl, rfl, rfl, rfl, rfl⟩
  | error fault =>
      have atMostOne := kind_ne_resource_of_failsUnworded ended
      rw [recordAll_of_error tally ended]
      simp only [returned, endsInResource, Trip.ids, ended]
      by_cases resource : fault.kind = .resource
      · cases unworded : source.failsUnworded statement with
        | true => exact absurd resource (atMostOne unworded)
        | false =>
            simp only [resource]
            exact ⟨rfl, rfl, rfl, rfl, rfl⟩
      · cases source.failsUnworded statement with
        | true =>
            simp only [resource, decide_false, or_true, if_true]
            exact ⟨rfl, rfl, rfl, rfl, rfl⟩
        | false =>
            simp only [resource, decide_false, Bool.false_eq_true, or_self, if_false]
            exact ⟨rfl, rfl, rfl, rfl, rfl⟩

end Trip

namespace Trip

def countersAfter (run : List (Trip × Tally Nat)) : Tally Nat :=
  (run.map Prod.snd).getLast?.getD .empty

theorem countersAfter_recoverEach (requests : List (Source × String)) :
    countersAfter (recoverEach requests) =
      Tally.empty.recordAll (((recoverEach requests).map Prod.fst).flatMap increases) := by
  rw [countersAfter, trips_recoverEach, recoverEach, List.map_snd_zip, Tally.getLast_running]
  · rfl
  · simp only [Tally.length_running, List.length_map, Nat.le_refl]

theorem countersAfter_append (requests : List (Source × String)) (source : Source)
    (statement : String) :
    countersAfter (recoverEach (requests ++ [(source, statement)])) =
      (countersAfter (recoverEach requests)).recordAll (recover source statement).increases := by
  simp only [countersAfter_recoverEach, trips_recoverEach, List.map_append, List.map_singleton,
    List.flatMap_append, List.flatMap_singleton, Tally.recordAll_append]

theorem countersAfter_perm {requests permuted : List (Source × String)}
    (same : requests.Perm permuted) :
    countersAfter (recoverEach permuted) = countersAfter (recoverEach requests) := by
  simp only [countersAfter_recoverEach, trips_recoverEach]
  exact Tally.recordAll_perm _ ((same.symm.map _).flatMap_right _)

theorem gains_of_run (requests : List (Source × String)) (tally : Tally Nat) :
    let trips := requests.map fun request => recover request.1 request.2
    tally.Gains (tally.recordAll (trips.flatMap increases)) (trips.countP returned)
      (trips.countP endsInResource +
        requests.countP fun request => request.1.failsUnworded request.2)
      ((trips.flatMap ids).countP (!·.isUnparsed))
      ((trips.flatMap ids).countP BranchId.isUnparsed) := by
  -- The tally is left open, since later trips start from what the first one leaves.
  induction requests generalizing tally with
  | nil => exact .refl tally
  | cons request rest restGains =>
      have both := (gains request.1 request.2 tally).trans (restGains _)
      simpa only [List.map_cons, List.flatMap_cons, Tally.recordAll_append, List.countP_cons,
        List.countP_append, Nat.add_comm, Nat.add_left_comm, Nat.add_assoc] using both

theorem counters_of_run (requests : List (Source × String)) :
    let run := recoverEach requests
    let trips := run.map Prod.fst
    let after := countersAfter run
    (after.success.getD 0 = trips.countP returned ∧
      after.error.getD 0 = trips.countP endsInResource +
        requests.countP (fun request => request.1.failsUnworded request.2) ∧
      after.structured.getD 0 = (trips.flatMap ids).countP (!·.isUnparsed) ∧
      after.unparsed.getD 0 = (trips.flatMap ids).countP BranchId.isUnparsed ∧
      after.durations = after.success.getD 0) ∧
    (∀ source statement fault, (recover source statement).outcome = .error fault →
      countersAfter (recoverEach (requests ++ [(source, statement)])) =
        if fault.kind = .resource ∨ source.failsUnworded statement = true then
          { after with error := Tally.add after.error 1 }
        else after) ∧
    ∀ permuted, requests.Perm permuted → countersAfter (recoverEach permuted) = after := by
  intro run trips after
  have sameTrips : trips = requests.map fun request => recover request.1 request.2 :=
    trips_recoverEach requests
  have recorded : after = Tally.empty.recordAll (trips.flatMap increases) :=
    countersAfter_recoverEach requests
  have gained := gains_of_run requests .empty
  simp only [← sameTrips, ← recorded] at gained
  refine ⟨⟨?_, ?_, ?_, ?_, ?_⟩, ?_, ?_⟩
  · exact gained.success.trans (Nat.zero_add _)
  · exact gained.error.trans (Nat.zero_add _)
  · exact gained.structured.trans (Nat.zero_add _)
  · exact gained.unparsed.trans (Nat.zero_add _)
  · exact gained.durations.trans gained.success.symm
  · intro source statement fault failed
    rw [countersAfter_append, recordAll_of_error _ failed]
  · intro permuted same
    exact countersAfter_perm same

theorem recoverEach_unworded {fault : Fault} (resource : fault.kind = .resource)
    (unworded : fault.text? = none) (statement : String) :
    let run := recoverEach [(.other (.error fault), statement)]
    run.map (·.1.outcome) = [.error .digitLimit] ∧
      (run.map Prod.fst).countP endsInResource = 0 ∧ (countersAfter run).error.getD 0 = 1 := by
  intro run
  have failed : ((Source.other (.error fault)).identifiers statement).result = .error fault := rfl
  have ended : (recover (.other (.error fault)) statement).outcome = .error .digitLimit := by
    have ordinary : fault.kind.isOrdinary = true := by rw [resource]; rfl
    rw [(of_error failed).1, Fault.leaving, if_pos ⟨ordinary, unworded⟩]
  have counted : (recover (.other (.error fault)) statement).increases = [.failure] := by
    rw [increases_of_error failed, if_pos resource]
  refine ⟨congrArg (fun outcome => [outcome]) ended, ?_, ?_⟩
  · rw [trips_recoverEach]
    simp [endsInResource, ended, Fault.digitLimit]
  · rw [countersAfter_recoverEach, trips_recoverEach, List.map_singleton, List.flatMap_singleton]
    simp only [counted]
    rfl

theorem unprintable_failure_counted :
    let fault : Fault := .raised .resource [.int (10 ^ 5000)] none
    let run := recoverEach [(.other (.error fault), "SELECT")]
    run.map (·.1.outcome) = [.error .digitLimit] ∧
      (run.map Prod.fst).countP endsInResource = 0 ∧ (countersAfter run).error.getD 0 = 1 := by
  intro fault
  have worded : ∀ number : Int, (Fault.raised .resource [.int number] none).text? =
      (printedInt? number).map Text.codes := fun _ => rfl
  have unworded : fault.text? = none := by
    rw [worded, printedInt?_ten_pow (by decide)]
    rfl
  exact recoverEach_unworded rfl unworded "SELECT"

end Trip

end InDoubt
