import InDoubt.Proofs.Recovery.Endings

namespace InDoubt

namespace Course

variable {α β γ : Type}

/-- No act of a course is of some kind. -/
def Without (course : Course α) (kind? : Act → Option γ) : Prop :=
  course.acts.filterMap kind? = []

variable {kind? : Act → Option γ}

namespace Without

theorem ofResult (result : Except Fault α) : (Course.ofResult result).Without kind? := rfl

theorem act {done : Act} (otherKind : kind? done = none) : (Course.act done).Without kind? := by
  simp [Without, otherKind]

theorem bind {first : Course α} {next : α → Course β} (firstWithout : first.Without kind?)
    (nextWithout : ∀ found, (next found).Without kind?) : (first >>= next).Without kind? := by
  cases reached : first.result with
  | error fault =>
      rw [bind_of_error reached]
      exact firstWithout
  | ok found =>
      rw [bind_of_ok reached]
      exact List.filterMap_append.trans
        (List.append_eq_nil_iff.mpr ⟨firstWithout, nextWithout found⟩)

theorem rescue {course : Course α} {handle : Fault → Course α}
    (courseWithout : course.Without kind?) (handleWithout : ∀ fault, (handle fault).Without kind?) :
    (course.rescue handle).Without kind? := by
  cases reached : course.result with
  | ok found =>
      rw [rescue_of_ok reached]
      exact courseWithout
  | error fault =>
      rw [rescue_of_error reached]
      exact List.filterMap_append.trans
        (List.append_eq_nil_iff.mpr ⟨courseWithout, handleWithout fault⟩)

theorem wrapping {course : Course α} (place : String) (courseWithout : course.Without kind?) :
    (course.wrapping place).Without kind? :=
  courseWithout.rescue fun _ => .ofResult _

end Without

theorem acts_bind_without (first : Course α) {next : α → Course β}
    (nextWithout : ∀ found, (next found).Without kind?) :
    ∃ later, (first >>= next).acts = first.acts ++ later ∧ later.filterMap kind? = [] := by
  cases reached : first.result with
  | error fault =>
      refine ⟨[], ?_, rfl⟩
      rw [bind_of_error reached, List.append_nil]
  | ok found =>
      refine ⟨(next found).acts, ?_, nextWithout found⟩
      rw [bind_of_ok reached]

end Course

open Course

variable {α γ : Type} {kind? : Act → Option γ}

namespace Connection

section

variable (notCall : ∀ made, kind? (.call made) = none) (notLog : ∀ event, kind? (.log event) = none)

include notCall

theorem call_without (made : Call) (fault : Option Fault) : (call made fault).Without kind? := by
  refine .bind (.act (notCall made)) fun _ => ?_
  cases fault with
  | none => exact .ofResult _
  | some fault => exact .ofResult _

theorem query_without (connection : Connection) (statement : Value) :
    (connection.query statement).Without kind? := by
  refine .bind (.wrapping _ (call_without notCall _ _)) fun _ => .wrapping _ ?_
  exact .bind (call_without notCall _ _) fun _ => .ofResult _

include notLog

theorem closeAfter_without (connection : Connection) (failure : Fault) :
    (connection.closeAfter failure : Course α).Without kind? := by
  refine .bind (.rescue (call_without notCall _ _) fun fault => ?_) fun _ => .ofResult _
  unfold noteClosing
  split
  · cases fault.text? with
    | some text => exact .act (notLog _)
    | none => exact .ofResult _
  · exact .ofResult _

theorem withCursor_without (connection : Connection) {body : Course α}
    (bodyWithout : body.Without kind?) : (connection.withCursor body).Without kind? := by
  refine .bind (.wrapping _ (call_without notCall _ _)) fun _ => .bind ?_ fun _ => ?_
  · exact bodyWithout.rescue (closeAfter_without notCall notLog connection)
  · exact .bind (.wrapping _ (call_without notCall _ _)) fun _ => .ofResult _

theorem fetch_without (connection : Connection) (statement : Value) :
    (connection.fetch statement).Without kind? :=
  withCursor_without notCall notLog connection (query_without notCall connection statement)

end

end Connection

theorem Source.ask_without_increases (source : Source) (statement : String) :
    (source.ask statement).Without Act.increase? := by
  cases source with
  | database connection =>
      exact .bind (Connection.fetch_without (fun _ => rfl) (fun _ => rfl) connection _)
        fun _ => .ofResult _
  | other answer => exact .bind (.act rfl) fun _ => .ofResult _

namespace BranchId

theorem takeEach_without (notRow : ∀ taken, kind? (.row taken) = none) (items : List Value) :
    (takeEach items).Without kind? := by
  induction items with
  | nil => exact .ofResult _
  | cons value rest restWithout =>
      refine .bind (.act (notRow value)) fun _ => .bind (.ofResult _) fun _ => ?_
      exact .bind restWithout fun _ => .ofResult _

theorem take_without (notRow : ∀ taken, kind? (.row taken) = none) (rows : Value) :
    (take rows).Without kind? := by
  unfold take
  cases rows.contents? with
  | none => exact .ofResult _
  | some contents =>
      refine .bind (takeEach_without notRow contents.items) fun ids => ?_
      cases contents.failure with
      | none => exact .ofResult _
      | some fault => exact .ofResult _

end BranchId

theorem Source.filterMap_identifiers (notRow : ∀ taken, kind? (.row taken) = none)
    (source : Source) (statement : String) :
    (source.identifiers statement).acts.filterMap kind? =
      (source.ask statement).acts.filterMap kind? := by
  obtain ⟨taking, taken, silent⟩ :=
    acts_bind_without (source.ask statement) (BranchId.take_without notRow)
  rw [identifiers, taken, List.filterMap_append, silent, List.append_nil]

namespace Trip

variable {source : Source} {statement : String}

theorem report_without_calls (fault : Fault) : (report fault).Without Act.call? := by
  rw [Without, acts_report]
  split
  · cases fault.text? with
    | some text => rfl
    | none => rfl
  · rfl

theorem completion_without_calls (ids : List BranchId) :
    (completion ids).Without Act.call? := rfl

theorem filterMap_acts_of_ok (notRow : ∀ taken, kind? (.row taken) = none) {ids : List BranchId}
    (found : (source.identifiers statement).result = .ok ids) :
    (recover source statement).acts.filterMap kind? =
      (.log (started statement) :: ((source.ask statement).acts ++
        (completion ids).acts)).filterMap kind? := by
  rw [(of_ok found).2]
  simp only [List.filterMap_cons, List.filterMap_append, Source.filterMap_identifiers notRow]

theorem filterMap_acts_of_error (notRow : ∀ taken, kind? (.row taken) = none) {fault : Fault}
    (met : (source.identifiers statement).result = .error fault) :
    (recover source statement).acts.filterMap kind? =
      (.log (started statement) :: ((source.ask statement).acts ++
        (report fault).acts)).filterMap kind? := by
  rw [(of_error met).2]
  simp only [List.filterMap_cons, List.filterMap_append, Source.filterMap_identifiers notRow]

theorem increases_of_ok {ids : List BranchId}
    (found : (source.identifiers statement).result = .ok ids) :
    (recover source statement).increases =
      [.success, .structured (ids.length - countUnparsed ids), .unparsed (countUnparsed ids),
        .duration] := by
  rw [increases, filterMap_acts_of_ok (fun _ => rfl) found, List.filterMap_cons_none rfl,
    List.filterMap_append, source.ask_without_increases statement]
  rfl

theorem increases_of_error {fault : Fault}
    (met : (source.identifiers statement).result = .error fault) :
    (recover source statement).increases = if fault.kind = .resource then [.failure] else [] := by
  rw [increases, filterMap_acts_of_error (fun _ => rfl) met, List.filterMap_cons_none rfl,
    List.filterMap_append, source.ask_without_increases statement, acts_report]
  split
  · cases fault.text? with
    | some text => rfl
    | none => rfl
  · rfl

end Trip

end InDoubt
