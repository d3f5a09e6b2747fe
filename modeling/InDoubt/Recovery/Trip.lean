import InDoubt.Observation.Span
import InDoubt.Observation.Tally
import InDoubt.Recovery.Connection
import InDoubt.Recovery.Row

namespace InDoubt

inductive Source where
  | database (connection : Connection)
  | other (answer : Except Fault Value)

namespace Source

def ask (source : Source) (statement : String) : Course Value :=
  match source with
  | .database connection => do return .list (← connection.fetch (.text statement))
  | .other answer => do
      Course.act (.call (.catalog (.text statement)))
      Course.ofResult answer

def identifiers (source : Source) (statement : String) : Course (List BranchId) := do
  BranchId.take (← source.ask statement)

end Source

structure Trip where
  outcome : Except Fault (List BranchId)
  acts : List Act
  spans : List Span

def countUnparsed (ids : List BranchId) : Nat := ids.countP BranchId.isUnparsed

namespace Trip

def calls (trip : Trip) : List Call := trip.acts.filterMap Act.call?

def events (trip : Trip) : List Event := trip.acts.filterMap Act.event?

def increases (trip : Trip) : List Increase := trip.acts.filterMap Act.increase?

def started (statement : String) : Event :=
  ⟨.debug, "xid_recovery_started", [("statement", .text statement)]⟩

def completed (count unparsed : Nat) : Event :=
  ⟨.info, "xid_recovery_completed", [("count", .int count), ("unparsed", .int unparsed)]⟩

def failed (text : List Nat) : Event :=
  ⟨.error, "xid_recovery_failed", [("error", .ofCodes text)]⟩

def span (statement : String) : Span :=
  (Span.start "xid.recover" none).setPlain "db.statement" (.text statement)

def logFailure (fault : Fault) : Course Unit :=
  match fault.text? with
  | some text => Course.act (.log (failed text))
  | none => Course.fail .digitLimit

/-- What a fault leads to before it passes on: a resource fault is counted, and then logged. -/
def report (fault : Fault) : Course (List BranchId) :=
  if fault.kind = .resource then do
    Course.act (.count .failure)
    logFailure fault
    Course.fail fault
  else Course.fail fault

def completion (ids : List BranchId) : Course Unit := do
  let unparsed := countUnparsed ids
  Course.act (.count .success)
  Course.act (.count (.structured (ids.length - unparsed)))
  Course.act (.count (.unparsed unparsed))
  Course.act (.count .duration)
  Course.act (.log (completed ids.length unparsed))

def attempt (source : Source) (statement : String) : Course (List BranchId) := do
  Course.act (.log (started statement))
  (source.identifiers statement).rescue report

end Trip

def recover (source : Source) (statement : String) : Trip :=
  let attempt := Trip.attempt source statement
  match attempt.result with
  | .error fault =>
      let (span, fault) := (Trip.span statement).endWith fault
      ⟨.error fault, attempt.acts, [span]⟩
  | .ok ids =>
      let span := ((Trip.span statement).setPlain "xid.count" (.int ids.length)).setPlain
        "xid.unparsed" (.int (countUnparsed ids))
      ⟨.ok ids, attempt.acts ++ (Trip.completion ids).acts, [span]⟩

def recoverEach (requests : List (Source × String)) : List (Trip × Tally Nat) :=
  let trips := requests.map fun (source, statement) => recover source statement
  trips.zip (Tally.empty.running (trips.map Trip.increases))

theorem Trip.trips_recoverEach (requests : List (Source × String)) :
    (recoverEach requests).map Prod.fst =
      requests.map fun (source, statement) => recover source statement := by
  rw [recoverEach]
  refine List.map_fst_zip (Nat.le_of_eq ?_)
  simp only [Tally.length_running, List.length_map]

def recoverAll (statement : String) (sources : List Source) : List (Trip × Tally Nat) :=
  recoverEach (sources.map fun source => (source, statement))

end InDoubt
