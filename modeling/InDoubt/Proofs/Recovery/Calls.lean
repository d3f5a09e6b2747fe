import Mathlib.Data.List.Forall2
import InDoubt.Proofs.Recovery.Acts
import InDoubt.Proofs.Recovery.Fetching

namespace InDoubt

open Course

namespace Connection

variable {α : Type}

theorem notedClosing_without_calls (connection : Connection) :
    connection.notedClosing.filterMap Act.call? = [] := by
  unfold notedClosing noteClosing
  cases connection.closeFault with
  | none => rfl
  | some fault =>
      dsimp only
      split
      · cases fault.text? with
        | some text => rfl
        | none => rfl
      · rfl

theorem calls_withCursor (connection : Connection) (body : Course α) :
    (connection.withCursor body).calls =
      if connection.cursorFault.isSome then [.cursor] else .cursor :: (body.calls ++ [.close]) := by
  rw [calls, acts_withCursor]
  cases connection.cursorFault with
  | some fault => rfl
  | none =>
      refine congrArg (Call.cursor :: ·) ?_
      rw [calls, List.filterMap_append]
      refine congrArg (body.acts.filterMap Act.call? ++ ·) ?_
      refine congrArg (Call.close :: ·) ?_
      cases body.result with
      | ok found => rfl
      | error failure => exact connection.notedClosing_without_calls

theorem calls_query (connection : Connection) (statement : Value) :
    (connection.query statement).calls =
      if connection.executeFault.isSome then [.execute statement]
      else [.execute statement, .fetchAll] := by
  rw [calls, acts_query]
  cases connection.executeFault with
  | some fault => rfl
  | none => rfl

def callsUntilFault (connection : Connection) (statement : Value) : List Call :=
  match connection.cursorFault, connection.executeFault with
  | some _, _ => [.cursor]
  | none, some _ => [.cursor, .execute statement, .close]
  | none, none => [.cursor, .execute statement, .fetchAll, .close]

theorem calls_fetch (connection : Connection) (statement : Value) :
    (connection.fetch statement).calls = connection.callsUntilFault statement := by
  rw [fetch, calls_withCursor, calls_query, callsUntilFault]
  cases connection.cursorFault with
  | some fault => rfl
  | none =>
      cases connection.executeFault with
      | some fault => rfl
      | none => rfl

end Connection

namespace Trip

/-- The calls of a trip, in their order among the rows that it takes up. -/
structure Orderly (trip : Trip) (connection : Connection) (statement : String) : Prop where
  calls : trip.calls = connection.callsUntilFault (.text statement)
  once : trip.calls.Nodup
  closedLast : connection.cursorFault = none →
    ∃ earlier, trip.calls = .cursor :: (earlier ++ [.close]) ∧ .close ∉ earlier
  callsFirst : ∃ calling reading, trip.acts = calling ++ reading ∧
    calling.filterMap Act.row? = [] ∧ reading.filterMap Act.call? = []

theorem acts_ask (connection : Connection) (statement : String) :
    ((Source.database connection).ask statement).acts =
      (connection.fetch (.text statement)).acts := by
  rw [Source.ask]
  cases fetched : (connection.fetch (.text statement)).result with
  | error fault => rw [bind_of_error fetched]
  | ok items =>
      rw [bind_of_ok fetched]
      exact List.append_nil _

theorem acts_split (connection : Connection) (statement : String) :
    ∃ later, (recover (.database connection) statement).acts =
        .log (started statement) :: ((connection.fetch (.text statement)).acts ++ later) ∧
      later.filterMap Act.call? = [] := by
  have takeSilent : ∀ rows, (BranchId.take rows).Without Act.call? :=
    BranchId.take_without fun _ => rfl
  obtain ⟨taking, taken, takingSilent⟩ :=
    acts_bind_without ((Source.database connection).ask statement) takeSilent
  have identified : ((Source.database connection).identifiers statement).acts =
      (connection.fetch (.text statement)).acts ++ taking := by
    rw [Source.identifiers, taken, acts_ask]
  cases reached : ((Source.database connection).identifiers statement).result with
  | ok ids =>
      refine ⟨taking ++ (completion ids).acts, ?_, ?_⟩
      · rw [(of_ok reached).2, identified, List.append_assoc]
      · rw [List.filterMap_append, takingSilent]
        exact completion_without_calls ids
  | error fault =>
      refine ⟨taking ++ (report fault).acts, ?_, ?_⟩
      · rw [(of_error reached).2, identified, List.append_assoc]
      · rw [List.filterMap_append, takingSilent]
        exact report_without_calls fault

theorem orderly (connection : Connection) (statement : String) :
    (recover (.database connection) statement).Orderly connection statement := by
  obtain ⟨later, split, silent⟩ := acts_split connection statement
  have called : (recover (.database connection) statement).calls =
      connection.callsUntilFault (.text statement) := by
    rw [calls, split]
    change ((connection.fetch (.text statement)).acts ++ later).filterMap Act.call? = _
    rw [List.filterMap_append, silent, List.append_nil]
    exact Connection.calls_fetch connection (.text statement)
  refine ⟨called, ?_, ?_, .log (started statement) :: (connection.fetch (.text statement)).acts,
    later, split, ?_, silent⟩
  · rw [called, Connection.callsUntilFault]
    cases connection.cursorFault with
    | some fault => simp
    | none =>
        cases connection.executeFault with
        | some fault => simp
        | none => simp
  · intro opened
    rw [called, Connection.callsUntilFault, opened]
    cases connection.executeFault with
    | some fault => exact ⟨[.execute (.text statement)], rfl, by simp⟩
    | none => exact ⟨[.execute (.text statement), .fetchAll], rfl, by simp⟩
  · exact Connection.fetch_without (fun _ => rfl) (fun _ => rfl) connection (.text statement)

theorem calls_of_run (requests : List (Connection × String)) :
    List.Forall₂ (fun request trip => trip.Orderly request.1 request.2) requests
      ((recoverEach (requests.map fun request => (.database request.1, request.2))).map
        Prod.fst) := by
  rw [trips_recoverEach, List.map_map, List.forall₂_map_right_iff, List.forall₂_same]
  intro request _
  exact orderly request.1 request.2

end Trip

end InDoubt
