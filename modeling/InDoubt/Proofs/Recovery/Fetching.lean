import InDoubt.Proofs.Outcome
import InDoubt.Recovery.Connection

namespace InDoubt

open Outcome

namespace Course

variable {α : Type}

theorem rescue_eq_error_iff {course : Course α} {handle : Fault → Course α} {fault : Fault} :
    (course.rescue handle).result = .error fault ↔
      ∃ failure, course.result = .error failure ∧ (handle failure).result = .error fault := by
  cases reached : course.result with
  | ok found => simp [rescue_of_ok reached, reached]
  | error failure => simp [rescue_of_error reached]

theorem rescue_eq_ok_iff {course : Course α} {handle : Fault → Course α} {found : α}
    (fails : ∀ failure, ∃ fault, (handle failure).result = .error fault) :
    (course.rescue handle).result = .ok found ↔ course.result = .ok found := by
  cases reached : course.result with
  | ok found => simp [rescue_of_ok reached, reached]
  | error failure =>
      obtain ⟨fault, failed⟩ := fails failure
      simp [rescue_of_error reached, failed]

end Course

namespace Connection

variable {α : Type} {connection : Connection} {statement : Value} {items : List Value}
  {fault : Fault}

theorem call_eq_ok_iff {made : Call} {raised : Option Fault} {done : Unit} :
    (call made raised).result = .ok done ↔ raised = none := by
  cases raised with
  | none => exact ⟨fun _ => rfl, fun _ => rfl⟩
  | some raised =>
      change Except.error raised = Except.ok done ↔ some raised = none
      simp

theorem call_eq_error_iff {made : Call} {raised : Option Fault} :
    (call made raised).result = .error fault ↔ raised = some fault := by
  cases raised with
  | none =>
      change Except.ok () = Except.error fault ↔ none = some fault
      simp
  | some raised =>
      change Except.error raised = Except.error fault ↔ some raised = some fault
      simp

theorem query_eq_ok_iff :
    (connection.query statement).result = .ok items ↔
      connection.executeFault = none ∧ connection.fetchAll.result = .ok items := by
  simp [query, bind_eq_ok_iff, mapError_eq_ok_iff, call_eq_ok_iff]

theorem query_eq_error_iff :
    (connection.query statement).result = .error fault ↔
      (∃ cause, connection.executeFault = some cause ∧
        cause.wrapOrdinary "Recovery query failed" = fault) ∨
      (connection.executeFault = none ∧ ∃ cause, connection.fetchAll.result = .error cause ∧
        cause.wrapOrdinary "Fetching prepared transactions failed" = fault) := by
  simp [query, bind_eq_error_iff, mapError_eq_error_iff, mapError_eq_ok_iff, call_eq_ok_iff,
    call_eq_error_iff]

def faultAfter (connection : Connection) (failure : Fault) : Fault :=
  match connection.closeFault with
  | none => failure
  | some fault =>
      if fault.kind.isOrdinary then if fault.text?.isSome then failure else .digitLimit else fault

theorem result_closeAfter (connection : Connection) (failure : Fault) :
    (connection.closeAfter failure : Course α).result =
      .error (connection.faultAfter failure) := by
  rw [closeAfter, faultAfter, Course.result_bind]
  cases connection.closeFault with
  | none => rfl
  | some fault =>
      have failed : (call .close (some fault)).result = .error fault := rfl
      rw [Course.rescue_of_error failed]
      dsimp only
      cases ordinary : fault.kind.isOrdinary with
      | false =>
          simp only [noteClosing, ordinary]
          rfl
      | true =>
          cases words : fault.text? with
          | none =>
              simp only [noteClosing, ordinary, words]
              rfl
          | some text =>
              simp only [noteClosing, ordinary, words]
              rfl

theorem fetch_eq_ok_iff :
    (connection.fetch statement).result = .ok items ↔
      connection.cursorFault = none ∧ connection.executeFault = none ∧
        connection.fetchAll.result = .ok items ∧ connection.closeFault = none := by
  have fails : ∀ failure, ∃ fault,
      (connection.closeAfter failure : Course (List Value)).result = .error fault :=
    fun failure => ⟨_, result_closeAfter connection failure⟩
  simp [fetch, withCursor, openCursor, close, bind_eq_ok_iff, mapError_eq_ok_iff, call_eq_ok_iff,
    Course.rescue_eq_ok_iff fails, query_eq_ok_iff, and_assoc]

theorem fetch_eq_error_iff :
    (connection.fetch statement).result = .error fault ↔
      (∃ cause, connection.cursorFault = some cause ∧
        cause.wrapOrdinary "Could not open cursor" = fault) ∨
      (connection.cursorFault = none ∧
        ((∃ failure, (connection.query statement).result = .error failure ∧
            connection.faultAfter failure = fault) ∨
          (∃ items, (connection.query statement).result = .ok items) ∧
            ∃ cause, connection.closeFault = some cause ∧
              cause.wrapOrdinary "Could not close cursor" = fault)) := by
  have fails : ∀ failure, ∃ fault,
      (connection.closeAfter failure : Course (List Value)).result = .error fault :=
    fun failure => ⟨_, result_closeAfter connection failure⟩
  simp [fetch, withCursor, openCursor, close, bind_eq_error_iff, mapError_eq_error_iff,
    mapError_eq_ok_iff, call_eq_ok_iff, call_eq_error_iff, Course.rescue_eq_ok_iff fails,
    Course.rescue_eq_error_iff, result_closeAfter]

open Course

theorem acts_call (made : Call) (raised : Option Fault) :
    (call made raised).acts = [.call made] := by
  cases raised with
  | none => rfl
  | some fault => rfl

theorem acts_openCursor (connection : Connection) :
    connection.openCursor.acts = [.call .cursor] := by
  rw [openCursor, acts_wrapping, acts_call]

theorem acts_close (connection : Connection) : connection.close.acts = [.call .close] := by
  rw [close, acts_wrapping, acts_call]

def notedClosing (connection : Connection) : List Act :=
  match connection.closeFault with
  | none => []
  | some fault => (noteClosing fault).acts

theorem acts_closeAfter (connection : Connection) (failure : Fault) :
    (connection.closeAfter failure : Course α).acts = .call .close :: connection.notedClosing := by
  have closed : ((call .close connection.closeFault).rescue noteClosing).acts =
      .call .close :: connection.notedClosing := by
    unfold notedClosing
    cases connection.closeFault with
    | none => rfl
    | some fault => rfl
  unfold closeAfter
  cases noted : ((call .close connection.closeFault).rescue noteClosing).result with
  | error fault => rw [bind_of_error noted, closed]
  | ok _ =>
      rw [bind_of_ok noted, closed]
      exact List.append_nil _

/-- The two places that close exclude each other, whatever is done with the cursor. -/
theorem acts_withCursor (connection : Connection) (body : Course α) :
    (connection.withCursor body).acts =
      if connection.cursorFault.isSome then [.call .cursor]
      else .call .cursor :: (body.acts ++ .call .close ::
        match body.result with
        | .ok _ => []
        | .error _ => connection.notedClosing) := by
  unfold withCursor
  cases opening : connection.openCursor.result with
  | error fault =>
      have failed : connection.cursorFault.isSome = true := by
        rw [openCursor, result_wrapping, mapError_eq_error_iff] at opening
        obtain ⟨cause, raised, _⟩ := opening
        rw [call_eq_error_iff.mp raised]
        rfl
      rw [bind_of_error opening, acts_openCursor, if_pos failed]
  | ok _ =>
      have opened : connection.cursorFault = none := by
        rw [openCursor, result_wrapping, mapError_eq_ok_iff] at opening
        exact call_eq_ok_iff.mp opening
      rw [bind_of_ok opening, acts_openCursor, if_neg (by simp [opened])]
      refine congrArg (Act.call Call.cursor :: ·) ?_
      cases done : body.result with
      | error failure =>
          have rescued : (body.rescue connection.closeAfter).result =
              .error (connection.faultAfter failure) := by
            rw [rescue_of_error done]
            exact result_closeAfter connection failure
          rw [bind_of_error rescued, rescue_of_error done, acts_closeAfter]
          rfl
      | ok found =>
          rw [rescue_of_ok done, bind_of_ok done]
          refine congrArg (body.acts ++ ·) ?_
          cases closing : connection.close.result with
          | error fault => rw [bind_of_error closing, acts_close]
          | ok _ =>
              rw [bind_of_ok closing, acts_close]
              rfl

theorem acts_fetchAll (connection : Connection) : connection.fetchAll.acts = [.call .fetchAll] := by
  unfold fetchAll
  cases called : (call .fetchAll connection.fetchFault).result with
  | error fault => rw [bind_of_error called, acts_call]
  | ok _ =>
      rw [bind_of_ok called, acts_call]
      rfl

theorem acts_query (connection : Connection) (statement : Value) :
    (connection.query statement).acts =
      .call (.execute statement) ::
        if connection.executeFault.isSome then [] else [.call .fetchAll] := by
  unfold query
  cases executing : ((call (.execute statement) connection.executeFault).wrapping
    "Recovery query failed").result with
  | error fault =>
      have failed : connection.executeFault.isSome = true := by
        rw [result_wrapping, mapError_eq_error_iff] at executing
        obtain ⟨cause, raised, _⟩ := executing
        rw [call_eq_error_iff.mp raised]
        rfl
      rw [bind_of_error executing, acts_wrapping, acts_call, if_pos failed]
  | ok _ =>
      have executed : connection.executeFault = none := by
        rw [result_wrapping, mapError_eq_ok_iff] at executing
        exact call_eq_ok_iff.mp executing
      rw [bind_of_ok executing, acts_wrapping, acts_call, acts_wrapping, acts_fetchAll,
        if_neg (by simp [executed])]
      rfl

end Connection

end InDoubt
