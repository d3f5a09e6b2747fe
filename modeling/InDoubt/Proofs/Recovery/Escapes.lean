import InDoubt.Proofs.Recovery.Acts
import InDoubt.Proofs.Recovery.Fetching

/-!
Which faults of a store leave a trip as something else than a resource fault: those that may not be
caught or have no text, and those with which a row breaks off while it is taken apart. Without one
of them a trip delivers identifiers or ends in a resource fault that is counted and logged.
-/

namespace InDoubt

open Outcome

namespace Fault

def Unwrappable (fault : Fault) : Prop := fault.kind.isOrdinary = false ∨ fault.text? = none

theorem not_proper_digitLimit : ¬digitLimit.Proper := by
  intro proper
  cases proper.1

theorem not_proper_of_interrupt {fault : Fault} (interrupt : fault.kind.isOrdinary = false) :
    ¬fault.Proper := by
  intro proper
  rw [proper.1] at interrupt
  cases interrupt

theorem proper_wrapOrdinary_iff {place : String} {fault : Fault} :
    (fault.wrapOrdinary place).Proper ↔ ¬fault.Unwrappable := by
  unfold wrapOrdinary wrap Unwrappable
  cases ordinary : fault.kind.isOrdinary with
  | false => simp [not_proper_of_interrupt ordinary]
  | true =>
      cases words : fault.text? with
      | none => simp [not_proper_digitLimit]
      | some text =>
          simp only [if_true, Bool.true_eq_false, reduceCtorEq, or_self, not_false_eq_true,
            iff_true]
          exact ⟨rfl, placed place text, text?_resource _ _⟩

theorem unwrappable_of_improper {place : String} {fault : Fault}
    (improper : ¬(fault.wrapOrdinary place).Proper) : fault.Unwrappable := by
  rw [proper_wrapOrdinary_iff] at improper
  exact Classical.not_not.mp improper

theorem Unwrappable.improper {fault : Fault} (unwrappable : fault.Unwrappable) (place : String) :
    ¬(fault.wrapOrdinary place).Proper := by
  rw [proper_wrapOrdinary_iff]
  exact not_not_intro unwrappable

end Fault

namespace Row

/-- The faults with which taking a value apart may fail without making the row malformed in so many
words: one of a kind that is not expected there, and one for which a text is missing. -/
inductive Leaks (value : Value) (fault : Fault) : Prop
  | foreign (noType : fault.kind ≠ .wrongType) (noValue : fault.kind.isWrongValue = false)
      (noResource : fault.kind ≠ .resource)
  | unprinted (expected : fault.kind = .wrongType ∨ fault.kind.isWrongValue = true)
      (unprinted : value.printed? = none)
  | unworded (resource : fault.kind = .resource) (unworded : fault.text? = none)

theorem proper_malformed_iff {value : Value} {fault : Fault} :
    (malformed value fault).Proper ↔ ¬Leaks value fault := by
  unfold malformed
  by_cases expected : fault.kind = .wrongType ∨ fault.kind.isWrongValue = true
  · rw [if_pos (by simpa using expected)]
    cases printed : value.printed? with
    | none =>
        refine iff_of_false Fault.not_proper_digitLimit ?_
        exact not_not_intro (.unprinted expected printed)
    | some text =>
        refine iff_of_true ⟨rfl, _, rfl⟩ ?_
        intro leaks
        cases leaks with
        | foreign noType noValue _ => simp [noType, noValue] at expected
        | unprinted _ unprinted => simp [printed] at unprinted
        | unworded resource _ => simp [resource, FaultKind.isWrongValue] at expected
  · rw [if_neg (by simpa using expected)]
    obtain ⟨noType, noValue⟩ := not_or.mp expected
    by_cases resource : fault.kind = .resource
    · cases words : fault.text? with
      | none =>
          refine iff_of_false ?_ (not_not_intro (.unworded resource words))
          simp [Fault.Proper, words]
      | some text =>
          refine iff_of_true ⟨resource, text, words⟩ ?_
          intro leaks
          cases leaks with
          | foreign _ _ noResource => exact noResource resource
          | unprinted expected' _ => exact expected expected'
          | unworded _ unworded => simp [words] at unworded
    · refine iff_of_false ?_ (not_not_intro (.foreign noType (by simpa using noValue) resource))
      exact fun proper => resource proper.1

theorem proper_of_identifier {row : Row} {fault : Fault} (refused : row.identifier = .error fault) :
    fault.Proper := by
  unfold identifier at refused
  split at refused
  · next isText =>
    obtain ⟨form, read⟩ := Form.read_total isText
    rw [read] at refused
    cases refused
  · cases refused
    exact ⟨rfl, _, rfl⟩

theorem ofRow_improper_iff {value : Value} :
    (∃ fault, BranchId.ofRow value = .error fault ∧ ¬fault.Proper) ↔
      ∃ fault, ofValue value = .error fault ∧ Leaks value fault := by
  unfold BranchId.ofRow
  cases taken : ofValue value with
  | ok row =>
      refine iff_of_false ?_ (by simp)
      intro improper
      obtain ⟨fault, refused, notProper⟩ := improper
      exact notProper (proper_of_identifier refused)
  | error fault => simp [proper_malformed_iff]

end Row

inductive Connection.Raises (connection : Connection) (fault : Fault) : Prop
  | cursor (raised : connection.cursorFault = some fault)
  | execute (raised : connection.executeFault = some fault)
  | fetch (raised : connection.fetchFault = some fault)
  | close (raised : connection.closeFault = some fault)
  | rows {contents : Contents} (listed : connection.rows.contents? = some contents)
      (raised : contents.failure = some fault)
  | sealedRows {identity : Nat} {className printed : String}
      (closed : connection.rows = .sealed identity className printed fault)
  | sealedRow {contents : Contents} {identity : Nat} {className printed : String}
      (listed : connection.rows.contents? = some contents)
      (member : .sealed identity className printed fault ∈ contents.items)
  | row {contents columns : Contents} {value : Value}
      (listed : connection.rows.contents? = some contents) (member : value ∈ contents.items)
      (opened : value.contents? = some columns) (raised : columns.failure = some fault)

/-- The ways in which a fault of another kind than a resource fault leaves a trip. -/
inductive Connection.Escapes (connection : Connection) : Prop
  | opening {fault : Fault} (raised : connection.cursorFault = some fault)
      (unwrappable : fault.Unwrappable)
  | executing {fault : Fault} (opened : connection.cursorFault = none)
      (raised : connection.executeFault = some fault) (unwrappable : fault.Unwrappable)
  | fetching {fault : Fault} (opened : connection.cursorFault = none)
      (executed : connection.executeFault = none)
      (raised : connection.fetchAll.result = .error fault) (unwrappable : fault.Unwrappable)
  | closing {fault : Fault} (opened : connection.cursorFault = none)
      (raised : connection.closeFault = some fault) (unwrappable : fault.Unwrappable)
  | reading {before after : List Value} {value : Value} {ids : List BranchId} {fault : Fault}
      (opened : connection.cursorFault = none) (executed : connection.executeFault = none)
      (fetched : connection.fetchAll.result = .ok (before ++ value :: after))
      (closed : connection.closeFault = none) (read : before.mapM BranchId.ofRow = .ok ids)
      (raised : Row.ofValue value = .error fault) (leaks : Row.Leaks value fault)

namespace Connection

variable {connection : Connection} {statement : Value}

theorem proper_faultAfter_iff {failure : Fault} :
    (connection.faultAfter failure).Proper ↔
      failure.Proper ∧ ∀ fault, connection.closeFault = some fault → ¬fault.Unwrappable := by
  unfold faultAfter Fault.Unwrappable
  cases connection.closeFault with
  | none => simp
  | some fault =>
      cases ordinary : fault.kind.isOrdinary with
      | false => simp [ordinary, Fault.not_proper_of_interrupt ordinary]
      | true =>
          cases words : fault.text? with
          | none => simp [ordinary, words, Fault.not_proper_digitLimit]
          | some text => simp [ordinary, words]

theorem identifiers_eq_error_iff {statement : String} {fault : Fault} :
    ((Source.database connection).identifiers statement).result = .error fault ↔
      (connection.fetch (.text statement)).result = .error fault ∨
        ∃ items, (connection.fetch (.text statement)).result = .ok items ∧
          items.mapM BranchId.ofRow = .error fault := by
  have listed : ∀ items, BranchId.ofRows (.list items) = items.mapM BranchId.ofRow := by
    intro items
    have contained : (Value.list items).contents? = some ⟨items, none⟩ := rfl
    rw [BranchId.ofRows_of_contents contained]
    exact bind_pure _
  rw [Source.result_identifiers, Source.ask, Course.result_bind]
  cases (connection.fetch (.text statement)).result with
  | error raised =>
      change Except.error raised = Except.error fault ↔ _
      simp
  | ok items =>
      change BranchId.ofRows (.list items) = .error fault ↔ _
      simp [listed]

theorem escapes_of_query {failure : Fault} (opened : connection.cursorFault = none)
    (failed : (connection.query statement).result = .error failure) (improper : ¬failure.Proper) :
    connection.Escapes := by
  rcases query_eq_error_iff.mp failed with ⟨cause, raised, rfl⟩ | ⟨executed, cause, raised, rfl⟩
  · exact .executing opened raised (Fault.unwrappable_of_improper improper)
  · exact .fetching opened executed raised (Fault.unwrappable_of_improper improper)

theorem escapes_of_fetch {fault : Fault}
    (failed : (connection.fetch statement).result = .error fault) (improper : ¬fault.Proper) :
    connection.Escapes := by
  rcases fetch_eq_error_iff.mp failed with ⟨cause, raised, rfl⟩ | ⟨opened, failed⟩
  · exact .opening raised (Fault.unwrappable_of_improper improper)
  rcases failed with ⟨failure, queryFailed, rfl⟩ | ⟨_, cause, raised, rfl⟩
  · by_cases proper : failure.Proper
    · rw [proper_faultAfter_iff, not_and] at improper
      obtain ⟨cause, raised, unwrappable⟩ := by simpa using improper proper
      exact .closing opened raised unwrappable
    · exact escapes_of_query opened queryFailed proper
  · exact .closing opened raised (Fault.unwrappable_of_improper improper)

theorem escapes_of_identifiers {statement : String} {fault : Fault}
    (failed : ((Source.database connection).identifiers statement).result = .error fault)
    (improper : ¬fault.Proper) : connection.Escapes := by
  rcases identifiers_eq_error_iff.mp failed with fetchFailed | ⟨items, fetched, rowsFailed⟩
  · exact escapes_of_fetch fetchFailed improper
  · obtain ⟨opened, executed, fetchedAll, closed⟩ := fetch_eq_ok_iff.mp fetched
    obtain ⟨before, value, after, ids, rfl, read, refused⟩ := mapM_eq_error_iff.mp rowsFailed
    obtain ⟨cause, raised, leaks⟩ := Row.ofRow_improper_iff.mp ⟨fault, refused, improper⟩
    exact .reading opened executed fetchedAll closed read raised leaks

def FailsImproperly (connection : Connection) (statement : String) : Prop :=
  ∃ fault, ((Source.database connection).identifiers statement).result = .error fault ∧
    ¬fault.Proper

theorem failsImproperly_of_fetch {statement : String} {fault : Fault}
    (failed : (connection.fetch (.text statement)).result = .error fault)
    (improper : ¬fault.Proper) : connection.FailsImproperly statement :=
  ⟨fault, identifiers_eq_error_iff.mpr (.inl failed), improper⟩

theorem failsImproperly_of_query {statement : String} {failure : Fault}
    (opened : connection.cursorFault = none)
    (failed : (connection.query (.text statement)).result = .error failure)
    (improper : ¬(connection.faultAfter failure).Proper) : connection.FailsImproperly statement :=
  failsImproperly_of_fetch (fetch_eq_error_iff.mpr (.inr ⟨opened, .inl ⟨failure, failed, rfl⟩⟩))
    improper

theorem improper_faultAfter {failure : Fault} (improper : ¬failure.Proper) :
    ¬(connection.faultAfter failure).Proper := by
  rw [proper_faultAfter_iff]
  exact fun proper => improper proper.1

theorem Escapes.failsImproperly (escapes : connection.Escapes) (statement : String) :
    connection.FailsImproperly statement := by
  cases escapes with
  | opening raised unwrappable =>
      exact failsImproperly_of_fetch (fetch_eq_error_iff.mpr (.inl ⟨_, raised, rfl⟩))
        (unwrappable.improper _)
  | executing opened raised unwrappable =>
      exact failsImproperly_of_query opened (query_eq_error_iff.mpr (.inl ⟨_, raised, rfl⟩))
        (improper_faultAfter (unwrappable.improper _))
  | fetching opened executed raised unwrappable =>
      exact failsImproperly_of_query opened
        (query_eq_error_iff.mpr (.inr ⟨executed, _, raised, rfl⟩))
        (improper_faultAfter (unwrappable.improper _))
  | @closing fault opened raised unwrappable =>
      -- The cursor is closed either way, in the one place or in the other.
      cases queried : (connection.query (.text statement)).result with
      | error failure =>
          refine failsImproperly_of_query opened queried ?_
          rw [proper_faultAfter_iff]
          exact fun proper => proper.2 fault raised unwrappable
      | ok items =>
          exact failsImproperly_of_fetch (fetch_eq_error_iff.mpr
            (.inr ⟨opened, .inr ⟨⟨items, queried⟩, fault, raised, rfl⟩⟩)) (unwrappable.improper _)
  | @reading before after value ids fault opened executed fetched closed read raised leaks =>
      obtain ⟨refusal, refused, improper⟩ := Row.ofRow_improper_iff.mpr ⟨fault, raised, leaks⟩
      refine ⟨refusal, identifiers_eq_error_iff.mpr (.inr ⟨before ++ value :: after, ?_, ?_⟩),
        improper⟩
      · exact fetch_eq_ok_iff.mpr ⟨opened, executed, fetched, closed⟩
      · exact mapM_eq_error_iff.mpr ⟨before, value, after, ids, rfl, read, refused⟩

end Connection

namespace Trip

theorem of_proper {source : Source} {statement : String} {fault : Fault} {text : List Nat}
    (failed : (source.identifiers statement).result = .error fault)
    (resource : fault.kind = .resource) (worded : fault.text? = some text) :
    (recover source statement).outcome = .error fault ∧
      (recover source statement).increases = [.failure] ∧
      (recover source statement).events.getLast? = some (Trip.failed text) := by
  refine ⟨?_, ?_, ?_⟩
  · rw [(of_error failed).1, Fault.leaving_of_text worded]
  · rw [increases_of_error failed, if_pos resource]
  · rw [events, (of_error failed).2, report_of_resource resource worded, ← List.cons_append,
      List.filterMap_append]
    exact List.getLast?_concat

/-- A trip that does as it should: it delivers identifiers, or it ends in a resource fault, which is
counted and then logged. -/
def Settles (trip : Trip) : Prop :=
  (∃ ids, trip.outcome = .ok ids) ∨
    ∃ fault text, trip.outcome = .error fault ∧ fault.kind = .resource ∧
      fault.text? = some text ∧ trip.increases = [.failure] ∧
      trip.events.getLast? = some (failed text)

theorem not_settles_of_escapes {connection : Connection} (escapes : connection.Escapes)
    (statement : String) : ¬(recover (.database connection) statement).Settles := by
  intro settles
  obtain ⟨fault, raised, improper⟩ := escapes.failsImproperly statement
  rw [Settles, (of_error raised).1] at settles
  rcases settles with ⟨ids, delivered⟩ | ⟨left, _, same, resource, _⟩
  · cases delivered
  · cases same
    exact improper (Fault.kind_leaving_eq_resource_iff.mp resource)

theorem settles_of_not_escapes {connection : Connection} (noEscape : ¬connection.Escapes)
    (statement : String) : (recover (.database connection) statement).Settles := by
  cases reached : ((Source.database connection).identifiers statement).result with
  | ok ids => exact .inl ⟨ids, (of_ok reached).1⟩
  | error fault =>
      have proper : fault.Proper := by
        refine Classical.byContradiction fun improper => ?_
        exact noEscape (Connection.escapes_of_identifiers reached improper)
      obtain ⟨resource, text, worded⟩ := proper
      obtain ⟨ended, counted, logged⟩ := of_proper reached resource worded
      exact .inr ⟨fault, text, ended, resource, worded, counted, logged⟩

theorem settles_iff_not_escapes (connection : Connection) (statement : String) :
    (recover (.database connection) statement).Settles ↔ ¬connection.Escapes :=
  ⟨fun settles escapes => not_settles_of_escapes escapes statement settles,
    fun noEscape => settles_of_not_escapes noEscape statement⟩

theorem breaking_row_escapes :
    let lost : Fault := .plain (.other "RuntimeError") "lost"
    let connection : Connection :=
      ⟨.list [.feed 0 "Row" "<row>" [.text "1_Zw==_Yg=="] (some lost)], none, none, none, none⟩
    (∀ fault, connection.Raises fault →
        fault.kind.isOrdinary = true ∧ fault.kind ≠ .memory) ∧
      (recover (.database connection) "SELECT").outcome = .error lost ∧
      (recover (.database connection) "SELECT").increases = [] ∧
      ¬(recover (.database connection) "SELECT").Settles := by
  intro lost connection
  refine ⟨?_, rfl, rfl, ?_⟩
  · intro fault raises
    cases raises with
    | cursor raised => cases raised
    | execute raised => cases raised
    | fetch raised => cases raised
    | close raised => cases raised
    | rows listed raised =>
        cases listed
        cases raised
    | sealedRows closed => cases closed
    | sealedRow listed member =>
        cases listed
        cases List.mem_singleton.mp member
    | row listed member opened raised =>
        cases listed
        cases List.mem_singleton.mp member
        cases opened
        cases raised
        exact ⟨rfl, by decide⟩
  · refine not_settles_of_escapes ?_ "SELECT"
    have fetched : connection.fetchAll.result =
        .ok ([] ++ Value.feed 0 "Row" "<row>" [.text "1_Zw==_Yg=="] (some lost) :: []) := rfl
    exact .reading rfl rfl fetched rfl rfl rfl (.foreign (by decide) rfl (by decide))

end Trip

end InDoubt
