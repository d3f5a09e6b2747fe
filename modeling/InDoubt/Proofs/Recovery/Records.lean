import InDoubt.Proofs.Recovery.Calls
import InDoubt.Proofs.Recovery.Precedence

/-!
What a trip leaves in the log and in the trace. The statement is there from the start, and at the
end both tell the same as the result: how many identifiers were recovered, that a resource fault was
met, or neither.
-/

namespace InDoubt

open Course

namespace Span

theorem endWith_keeps (span : Span) (fault : Fault) :
    (span.endWith fault).1.name = span.name ∧
      (span.endWith fault).1.attributes = span.attributes := by
  unfold endWith
  cases fault.kind.isOrdinary with
  | false => exact ⟨rfl, rfl⟩
  | true =>
      cases fault.text? with
      | none => exact ⟨rfl, rfl⟩
      | some text => exact ⟨rfl, rfl⟩

def Uncounted (span : Span) : Prop :=
  span.attributes.lookup "xid.count" = none ∧ span.attributes.lookup "xid.unparsed" = none

theorem status_endWith_of_text {span : Span} {fault : Fault} {text : List Nat}
    (ordinary : fault.kind.isOrdinary = true) (worded : fault.text? = some text) :
    (span.endWith fault).1.status = .error (Fault.placed fault.kind.name text) := by
  simp only [endWith, ordinary, worded, if_true]

end Span

def Call.statement? : Call → Option Value
  | .execute statement => some statement
  | .catalog statement => some statement
  | .cursor | .fetchAll | .close => none

namespace Connection

variable {connection : Connection} {statement : Value} {event : Event}

theorem statements_callsUntilFault (connection : Connection) (statement : Value) :
    (connection.callsUntilFault statement).filterMap Call.statement? =
      if connection.cursorFault.isSome then [] else [statement] := by
  unfold callsUntilFault
  cases connection.cursorFault with
  | some fault => rfl
  | none =>
      cases connection.executeFault with
      | some fault => rfl
      | none => rfl

theorem name_of_mem_notedClosing
    (member : event ∈ connection.notedClosing.filterMap Act.event?) :
    event.name = "recovery_cursor_close_failed" := by
  unfold notedClosing noteClosing at member
  cases raised : connection.closeFault with
  | none => simp [raised] at member
  | some fault =>
      simp only [raised] at member
      split at member
      · cases worded : fault.text? with
        | none => simp [worded, fail, ofResult] at member
        | some text =>
            simp only [worded, acts_act] at member
            cases List.mem_singleton.mp member
            rfl
      · simp [fail, ofResult] at member

theorem name_of_mem_events_fetch (member : event ∈ (connection.fetch statement).events) :
    event.name = "recovery_cursor_close_failed" := by
  rw [events_fetch] at member
  split at member
  · cases member
  · split at member
    · cases member
    · exact name_of_mem_notedClosing member

theorem events_fetch_of_ok {items : List Value}
    (fetched : (connection.fetch statement).result = .ok items) :
    (connection.fetch statement).events = [] := by
  obtain ⟨opened, executed, listed, _⟩ := fetch_eq_ok_iff.mp fetched
  rw [events_fetch, opened, query_eq_ok_iff.mpr ⟨executed, listed⟩]
  rfl

end Connection

namespace Source

variable {source : Source} {statement : String}

theorem events_ask_database (connection : Connection) (statement : String) :
    ((Source.database connection).ask statement).events =
      (connection.fetch (.text statement)).events := by
  rw [Course.events, Trip.acts_ask]
  rfl

theorem name_of_mem_events_ask {event : Event} (member : event ∈ (source.ask statement).events) :
    event.name = "recovery_cursor_close_failed" := by
  cases source with
  | database connection =>
      rw [events_ask_database] at member
      exact Connection.name_of_mem_events_fetch member
  | other answer => cases member

theorem events_ask_of_ok {rows : Value} (answered : (source.ask statement).result = .ok rows) :
    (source.ask statement).events = [] := by
  cases source with
  | database connection =>
      rw [events_ask_database]
      rw [ask, result_bind] at answered
      obtain ⟨items, fetched, _⟩ := Outcome.bind_eq_ok_iff.mp answered
      exact Connection.events_fetch_of_ok fetched
  | other answer => rfl

end Source

namespace Trip

variable {source : Source} {statement : String}

def named (trip : Trip) (name : String) : List Event :=
  trip.events.filter fun event => event.name == name

theorem events_of_ok {ids : List BranchId}
    (found : (source.identifiers statement).result = .ok ids) :
    (recover source statement).events =
      [started statement, completed ids.length (countUnparsed ids)] := by
  have silent : (source.ask statement).events = [] := by
    rw [Source.result_identifiers] at found
    obtain ⟨rows, answered, _⟩ := Outcome.bind_eq_ok_iff.mp found
    exact Source.events_ask_of_ok answered
  rw [events, filterMap_acts_of_ok (fun _ => rfl) found]
  refine congrArg (started statement :: ·) ?_
  rw [List.filterMap_append, ← Course.events, silent]
  rfl

theorem events_report (fault : Fault) :
    (report fault).events =
      if fault.kind = .resource then (fault.text?.map failed).toList else [] := by
  rw [Course.events, acts_report]
  split
  · cases fault.text? with
    | none => rfl
    | some text => rfl
  · rfl

theorem events_of_error {fault : Fault}
    (met : (source.identifiers statement).result = .error fault) :
    (recover source statement).events =
      started statement :: ((source.ask statement).events ++ (report fault).events) := by
  rw [events, filterMap_acts_of_error (fun _ => rfl) met]
  refine congrArg (started statement :: ·) ?_
  exact List.filterMap_append

/-- Under the names that tell how a trip ended there is only what is logged at its end. -/
theorem named_eq_filter {trip : Trip} {ending : List Event} {name : String}
    (logged : trip.events = started statement :: ((source.ask statement).events ++ ending))
    (noStart : name ≠ "xid_recovery_started") (noClosing : name ≠ "recovery_cursor_close_failed") :
    trip.named name = ending.filter fun event => event.name == name := by
  have asking : ((source.ask statement).events.filter fun event => event.name == name) = [] := by
    rw [List.filter_eq_nil_iff]
    intro event member same
    rw [beq_iff_eq, Source.name_of_mem_events_ask member] at same
    exact noClosing same.symm
  rw [named, logged, List.filter_cons_of_neg, List.filter_append, asking, List.nil_append]
  simpa [started] using noStart.symm

theorem spans_of_ok {ids : List BranchId}
    (found : (source.identifiers statement).result = .ok ids) :
    (recover source statement).spans =
      [((span statement).setPlain "xid.count" (.int ids.length)).setPlain "xid.unparsed"
        (.int (countUnparsed ids))] := by
  simp only [recover, attempt_of_ok found]

theorem spans_of_error {fault reported : Fault}
    (met : (source.identifiers statement).result = .error fault)
    (reportedResult : (report fault).result = .error reported) :
    (recover source statement).spans = [((span statement).endWith reported).1] := by
  simp only [recover, attempt_of_error met reportedResult]

theorem span_of_ok {ids : List BranchId}
    (found : (source.identifiers statement).result = .ok ids) :
    ∃ span, (recover source statement).spans = [span] ∧ span.name = "xid.recover" ∧
      span.attributes =
        [("db.statement", .text statement), ("xid.count", .int ids.length),
          ("xid.unparsed", .int (countUnparsed ids))] :=
  ⟨_, spans_of_ok found, rfl, rfl⟩

theorem span_of_error {fault : Fault}
    (met : (source.identifiers statement).result = .error fault) :
    ∃ span, (recover source statement).spans = [span] ∧ span.name = "xid.recover" ∧
      span.attributes = [("db.statement", .text statement)] ∧
      ∀ text, fault.kind = .resource → fault.text? = some text →
        span.status = .error (Fault.placed "ResourceError" text) := by
  obtain ⟨reported, reportedResult, _⟩ := result_report fault
  obtain ⟨sameName, sameAttributes⟩ := (span statement).endWith_keeps reported
  refine ⟨_, spans_of_error met reportedResult, sameName, sameAttributes, ?_⟩
  intro text resource worded
  rw [report_of_resource resource worded] at reportedResult
  cases reportedResult
  have ordinary : fault.kind.isOrdinary = true := by
    rw [resource]
    rfl
  rw [Span.status_endWith_of_text ordinary worded, resource]
  rfl

/-- The result of a trip, its log and a span tell the same about its end. -/
inductive Agrees (trip : Trip) (span : Span) : Prop
  | returned {ids : List BranchId} (outcome : trip.outcome = .ok ids)
      (counted : span.attributes.lookup "xid.count" = some (.int ids.length))
      (unparsed : span.attributes.lookup "xid.unparsed" =
        some (.int (ids.countP BranchId.isUnparsed)))
      (completed : trip.named "xid_recovery_completed" =
        [⟨.info, "xid_recovery_completed",
          [("count", .int ids.length), ("unparsed", .int (ids.countP BranchId.isUnparsed))]⟩])
      (notFailed : trip.named "xid_recovery_failed" = [])
  | refused {fault : Fault} {text : List Nat} (outcome : trip.outcome = .error fault)
      (resource : fault.kind = .resource) (worded : fault.text? = some text)
      (marked : span.status = .error (Fault.placed "ResourceError" text))
      (uncounted : span.Uncounted)
      (failed : trip.named "xid_recovery_failed" =
        [⟨.error, "xid_recovery_failed", [("error", .ofCodes text)]⟩])
      (notCompleted : trip.named "xid_recovery_completed" = [])
  | foreign {fault : Fault} (outcome : trip.outcome = .error fault)
      (noResource : fault.kind ≠ .resource) (uncounted : span.Uncounted)
      (notFailed : trip.named "xid_recovery_failed" = [])
      (notCompleted : trip.named "xid_recovery_completed" = [])

theorem agrees_of_ok {ids : List BranchId} {span : Span}
    (found : (source.identifiers statement).result = .ok ids)
    (attributes : span.attributes =
      [("db.statement", .text statement), ("xid.count", .int ids.length),
        ("xid.unparsed", .int (countUnparsed ids))]) :
    (recover source statement).Agrees span := by
  refine .returned (of_ok found).1 ?_ ?_ ?_ ?_
  · rw [attributes]
    rfl
  · rw [attributes]
    rfl
  · rw [named, events_of_ok found]
    rfl
  · rw [named, events_of_ok found]
    rfl

theorem agrees_of_error {fault : Fault} {span : Span}
    (met : (source.identifiers statement).result = .error fault)
    (attributes : span.attributes = [("db.statement", .text statement)])
    (marked : ∀ text, fault.kind = .resource → fault.text? = some text →
      span.status = .error (Fault.placed "ResourceError" text)) :
    (recover source statement).Agrees span := by
  have ended := (of_error met).1
  have logged := events_of_error met
  have uncounted : span.Uncounted := by
    rw [Span.Uncounted, attributes]
    exact ⟨rfl, rfl⟩
  -- Only a resource fault with a text is logged, and only such a one leaves as a resource fault.
  by_cases proper : fault.Proper
  · obtain ⟨resource, text, worded⟩ := proper
    rw [Fault.leaving_of_text worded] at ended
    rw [report_of_resource resource worded] at logged
    refine .refused ended resource worded (marked text resource worded) uncounted ?_ ?_
    · rw [named_eq_filter logged (by decide) (by decide)]
      rfl
    · rw [named_eq_filter logged (by decide) (by decide)]
      rfl
  · have silent : (report fault).events = [] := by
      rw [events_report]
      split
      · next resource =>
        cases worded : fault.text? with
        | none => rfl
        | some text => exact absurd ⟨resource, text, worded⟩ proper
      · rfl
    rw [silent] at logged
    refine .foreign ended (fun resource => proper (Fault.kind_leaving_eq_resource_iff.mp resource))
      uncounted ?_ ?_
    · rw [named_eq_filter logged (by decide) (by decide)]
      rfl
    · rw [named_eq_filter logged (by decide) (by decide)]
      rfl

theorem calls_eq_calls_ask (source : Source) (statement : String) :
    (recover source statement).calls = (source.ask statement).calls := by
  cases met : (source.identifiers statement).result with
  | ok ids =>
      rw [calls, filterMap_acts_of_ok (fun _ => rfl) met, List.filterMap_cons_none rfl,
        List.filterMap_append, completion_without_calls, List.append_nil, Course.calls]
  | error fault =>
      rw [calls, filterMap_acts_of_error (fun _ => rfl) met, List.filterMap_cons_none rfl,
        List.filterMap_append, report_without_calls, List.append_nil, Course.calls]

theorem eq_of_mem_statements {given : Value}
    (handed : given ∈ (recover source statement).calls.filterMap Call.statement?) :
    given = .text statement := by
  rw [calls_eq_calls_ask] at handed
  cases source with
  | database connection =>
      have called : ((Source.database connection).ask statement).calls =
          connection.callsUntilFault (.text statement) := by
        rw [Course.calls, acts_ask]
        exact Connection.calls_fetch connection (.text statement)
      rw [called, Connection.statements_callsUntilFault] at handed
      split at handed
      · cases handed
      · exact List.mem_singleton.mp handed
  | other answer => exact List.mem_singleton.mp handed

end Trip

end InDoubt
