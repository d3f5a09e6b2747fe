import InDoubt.Proofs.Recovery.Acts
import InDoubt.Proofs.Recovery.Batches
import InDoubt.Proofs.Recovery.Fetching
import InDoubt.Proofs.Value.Printed

/-!
Which fault a fetch ends with if several of its steps fail: that of the first one. A closing that
fails after another step is only logged.
-/

namespace InDoubt

open Outcome

namespace Connection

inductive Step where
  | opening
  | executing
  | fetching
  | closing

namespace Step

def inOrder : List Step := [.opening, .executing, .fetching, .closing]

def place : Step → String
  | .opening => "Could not open cursor"
  | .executing => "Recovery query failed"
  | .fetching => "Fetching prepared transactions failed"
  | .closing => "Could not close cursor"

def leavesOpen : Step → Bool
  | .executing | .fetching => true
  | .opening | .closing => false

end Step

structure Failure where
  step : Step
  fault : Fault

/-- How each step fails by itself. Fetching takes in going through what has been fetched. -/
inductive Fails (connection : Connection) : Step → Failure → Prop
  | opening {fault : Fault} (raised : connection.cursorFault = some fault) :
      Fails connection .opening ⟨.opening, fault⟩
  | executing {fault : Fault} (raised : connection.executeFault = some fault) :
      Fails connection .executing ⟨.executing, fault⟩
  | fetching {fault : Fault} (raised : connection.fetchFault = some fault) :
      Fails connection .fetching ⟨.fetching, fault⟩
  | listing (called : connection.fetchFault = none)
      (nothing : ∀ items failure, ¬connection.rows.Iterates items failure) :
      Fails connection .fetching ⟨.fetching, .notIterable connection.rows⟩
  | sealed {fault : Fault} (called : connection.fetchFault = none)
      (closed : connection.rows.seal? = some fault) :
      Fails connection .fetching ⟨.fetching, fault⟩
  | breaking {items : List Value} {fault : Fault} (called : connection.fetchFault = none)
      (yields : connection.rows.Yields items (some fault)) (breaks : fault.kind ≠ .exhausted) :
      Fails connection .fetching ⟨.fetching, fault⟩
  | closing {fault : Fault} (raised : connection.closeFault = some fault) :
      Fails connection .closing ⟨.closing, fault⟩

abbrev FailsFirst (connection : Connection) : Failure → Prop :=
  FirstFailure connection.Fails Step.inOrder

inductive Notes (connection : Connection) (step : Step) : List Event → Prop
  | nothing (calm : step.leavesOpen = false ∨ connection.closeFault = none) :
      Notes connection step []
  | warning {fault : Fault} {message : List Nat} (opened : step.leavesOpen = true)
      (raised : connection.closeFault = some fault)
      (worded : ∀ text, fault.text? = some text → message = text) :
      Notes connection step
        [⟨.warning, "recovery_cursor_close_failed", [("error", .ofCodes message)]⟩]

/-- A fetch ends as its first failing step says, whatever fails after it. -/
inductive KeepsFirst (connection : Connection) (fetched : Course (List Value)) : Prop
  | whole {items : List Value} {ending : Option Fault}
      (calm : ∀ step failure, ¬connection.Fails step failure)
      (yields : connection.rows.Yields items ending) (result : fetched.result = .ok items)
      (silent : fetched.events = [])
  | wrapped {failure : Failure} {message : List Nat} (first : connection.FailsFirst failure)
      (ordinary : failure.fault.kind ≠ .interrupt)
      (worded : ∀ text, failure.fault.text? = some text →
        message = Fault.placed failure.step.place text)
      (result : fetched.result =
        .error (.raised .resource [.ofCodes message] (some failure.fault)))
      (noted : connection.Notes failure.step fetched.events)
  | unwrapped {failure : Failure} (first : connection.FailsFirst failure)
      (interrupt : failure.fault.kind = .interrupt) (result : fetched.result = .error failure.fault)
      (noted : connection.Notes failure.step fetched.events)

/-- The ways in which the first failure is lost: it is to be wrapped and has no text, or the closing
that fails after it may not be caught or has no text. -/
inductive Loses (connection : Connection) : Prop
  | unworded {failure : Failure} (first : connection.FailsFirst failure)
      (ordinary : failure.fault.kind ≠ .interrupt) (unworded : failure.fault.text? = none)
  | closing {failure : Failure} {fault : Fault} (first : connection.FailsFirst failure)
      (opened : failure.step.leavesOpen = true) (raised : connection.closeFault = some fault)
      (spoils : fault.kind = .interrupt ∨ fault.text? = none)

variable {connection : Connection} {failure : Failure} {statement : Value}

theorem fetchedItems_eq_ok_iff {rows : Value} {items : List Value} :
    fetchedItems rows = .ok items ↔ ∃ ending, rows.Yields items ending ∧ Ends ending := by
  unfold fetchedItems
  constructor
  · intro listed
    split at listed
    · cases listed
    · next contents opened =>
      obtain ⟨yields, _⟩ := Value.exists_yields opened
      split at listed
      · cases listed
      · next whole =>
        cases listed
        rw [whole] at yields
        exact ⟨none, yields, fun _ impossible => by cases impossible⟩
  · intro listed
    obtain ⟨ending, yields, ends⟩ := listed
    rw [yields.contents_of_ends ends]

theorem fetchedItems_eq_error_iff {rows : Value} {fault : Fault} :
    fetchedItems rows = .error fault ↔
      (∀ items failure, ¬rows.Iterates items failure) ∧ .notIterable rows = fault ∨
        rows.seal? = some fault ∨
          ∃ items, rows.Yields items (some fault) ∧ fault.kind ≠ .exhausted := by
  unfold fetchedItems
  constructor
  · intro broken
    split at broken
    · next unlisted =>
      rcases Value.sealed_or_not_iterates unlisted with ⟨closing, closed⟩ | ⟨unsealed, nothing⟩
      · rw [Value.openingFault, closed] at broken
        exact .inr (.inl (closed.trans (congrArg some (Except.error.inj broken))))
      · rw [Value.openingFault, unsealed] at broken
        exact .inl ⟨nothing, Except.error.inj broken⟩
    · next contents opened =>
      obtain ⟨yields, breaks⟩ := Value.exists_yields opened
      split at broken
      · next failed =>
        cases broken
        rw [failed] at yields
        exact .inr (.inr ⟨contents.items, yields, breaks fault failed⟩)
      · cases broken
  · intro either
    rcases either with ⟨nothing, rfl⟩ | closed | ⟨items, yields, breaks⟩
    · obtain ⟨unlisted, unsealed⟩ := Value.unopened_of_not_iterates nothing
      simp only [unlisted, Value.openingFault, unsealed, Option.getD_none]
    · simp only [Value.contents?_of_seal? closed, Value.openingFault, closed, Option.getD_some]
    · rw [yields.contents_of_breaks breaks]

theorem fetchAll_eq_ok_iff {items : List Value} :
    connection.fetchAll.result = .ok items ↔
      connection.fetchFault = none ∧
        ∃ ending, connection.rows.Yields items ending ∧ Ends ending := by
  simp [fetchAll, bind_eq_ok_iff, call_eq_ok_iff, fetchedItems_eq_ok_iff]

theorem fetchAll_eq_error_iff {fault : Fault} :
    connection.fetchAll.result = .error fault ↔
      connection.Fails .fetching ⟨.fetching, fault⟩ := by
  simp only [fetchAll, Course.result_bind, Course.result_ofResult, bind_eq_error_iff,
    call_eq_error_iff, call_eq_ok_iff, fetchedItems_eq_error_iff]
  constructor
  · intro failed
    rcases failed with raised | ⟨_, called, ⟨nothing, rfl⟩ | closed | ⟨items, yields, breaks⟩⟩
    · exact .fetching raised
    · exact .listing called nothing
    · exact .sealed called closed
    · exact .breaking called yields breaks
  · intro fails
    cases fails with
    | fetching raised => exact .inl raised
    | listing called nothing => exact .inr ⟨(), called, .inl ⟨nothing, rfl⟩⟩
    | sealed called closed => exact .inr ⟨(), called, .inr (.inl closed)⟩
    | breaking called yields breaks => exact .inr ⟨(), called, .inr (.inr ⟨_, yields, breaks⟩)⟩

def faultOf (connection : Connection) : Step → Option Fault
  | .opening => connection.cursorFault
  | .executing => connection.executeFault
  | .fetching =>
      match connection.fetchAll.result with
      | .ok _ => none
      | .error fault => some fault
  | .closing => connection.closeFault

theorem fails_iff {step : Step} :
    connection.Fails step failure ↔
      failure.step = step ∧ connection.faultOf step = some failure.fault := by
  constructor
  · intro fails
    cases fails with
    | opening raised => exact ⟨rfl, raised⟩
    | executing raised => exact ⟨rfl, raised⟩
    | fetching raised =>
        simp only [faultOf, fetchAll_eq_error_iff.mpr (.fetching raised), and_self]
    | listing called nothing =>
        simp only [faultOf, fetchAll_eq_error_iff.mpr (.listing called nothing), and_self]
    | sealed called closed =>
        simp only [faultOf, fetchAll_eq_error_iff.mpr (.sealed called closed), and_self]
    | breaking called yields breaks =>
        simp only [faultOf, fetchAll_eq_error_iff.mpr (.breaking called yields breaks), and_self]
    | closing raised => exact ⟨rfl, raised⟩
  · intro raised
    obtain ⟨step, fault⟩ := failure
    obtain ⟨rfl, raised⟩ := raised
    cases step with
    | opening => exact .opening raised
    | executing => exact .executing raised
    | fetching =>
        unfold faultOf at raised
        apply fetchAll_eq_error_iff.mp
        cases fetched : connection.fetchAll.result with
        | ok items => simp [fetched] at raised
        | error other =>
            simp only [fetched, Option.some.injEq] at raised
            rw [raised]
    | closing => exact .closing raised

theorem passes_iff {step : Step} :
    (∀ failure, ¬connection.Fails step failure) ↔ connection.faultOf step = none := by
  simp only [fails_iff]
  constructor
  · intro passes
    cases raised : connection.faultOf step with
    | none => rfl
    | some fault => exact absurd ⟨rfl, raised⟩ (passes ⟨step, fault⟩)
  · intro calm failure raised
    cases calm.symm.trans raised.2

theorem Fails.unique (step : Step) (failure other : Failure) (fails : connection.Fails step failure)
    (failsToo : connection.Fails step other) : failure = other := by
  obtain ⟨step', fault⟩ := failure
  obtain ⟨step'', fault'⟩ := other
  obtain ⟨rfl, raised⟩ := fails_iff.mp fails
  obtain ⟨rfl, raised'⟩ := fails_iff.mp failsToo
  cases raised.symm.trans raised'
  rfl

theorem failsFirst_iff :
    connection.FailsFirst failure ↔
      connection.Fails .opening failure ∨ connection.cursorFault = none ∧
        (connection.Fails .executing failure ∨ connection.executeFault = none ∧
          (connection.Fails .fetching failure ∨ (∃ items, connection.fetchAll.result = .ok items) ∧
            connection.Fails .closing failure)) := by
  have fetched : connection.faultOf .fetching = none ↔
      ∃ items, connection.fetchAll.result = .ok items := by
    unfold faultOf
    cases connection.fetchAll.result with
    | ok items => simp
    | error fault => simp
  simp only [FailsFirst, Step.inOrder, firstFailure_cons, not_firstFailure_nil, passes_iff, fetched,
    and_false, or_false]
  rfl

def endingWith (connection : Connection) (failure : Failure) : Fault :=
  let wrapped := failure.fault.wrapOrdinary failure.step.place
  if failure.step.leavesOpen then connection.faultAfter wrapped else wrapped

theorem result_of_first (first : connection.FailsFirst failure) (statement : Value) :
    (connection.fetch statement).result = .error (connection.endingWith failure) := by
  obtain ⟨step, fault⟩ := failure
  -- One case for each step that may be the first to fail.
  apply fetch_eq_error_iff.mpr
  rcases failsFirst_iff.mp first with
    fails | ⟨opened, fails | ⟨executed, fails | ⟨⟨items, fetched⟩, fails⟩⟩⟩
  · obtain ⟨rfl, raised⟩ := fails_iff.mp fails
    exact .inl ⟨fault, raised, rfl⟩
  · obtain ⟨rfl, raised⟩ := fails_iff.mp fails
    exact .inr ⟨opened, .inl ⟨_, query_eq_error_iff.mpr (.inl ⟨fault, raised, rfl⟩), rfl⟩⟩
  · obtain ⟨rfl, _⟩ := fails_iff.mp fails
    have failed := fetchAll_eq_error_iff.mpr fails
    have queryFailed : (connection.query statement).result = .error _ :=
      query_eq_error_iff.mpr (.inr ⟨executed, fault, failed, rfl⟩)
    exact .inr ⟨opened, .inl ⟨_, queryFailed, rfl⟩⟩
  · obtain ⟨rfl, raised⟩ := fails_iff.mp fails
    exact .inr ⟨opened, .inr ⟨⟨items, query_eq_ok_iff.mpr ⟨executed, fetched⟩⟩, fault, raised, rfl⟩⟩

theorem events_fetch (connection : Connection) (statement : Value) :
    (connection.fetch statement).events =
      if connection.cursorFault.isSome then []
      else
        match (connection.query statement).result with
        | .ok _ => []
        | .error _ => connection.notedClosing.filterMap Act.event? := by
  have silent : (connection.query statement).acts.filterMap Act.event? = [] :=
    query_without (fun _ => rfl) connection statement
  rw [Course.events, fetch, acts_withCursor]
  cases connection.cursorFault with
  | some fault => rfl
  | none =>
      rw [if_neg (by simp), if_neg (by simp), List.filterMap_cons_none rfl, List.filterMap_append,
        silent, List.nil_append, List.filterMap_cons_none rfl]
      cases (connection.query statement).result with
      | ok items => rfl
      | error fault => rfl

theorem events_of_first (first : connection.FailsFirst failure) (statement : Value) :
    (connection.fetch statement).events =
      if failure.step.leavesOpen then connection.notedClosing.filterMap Act.event? else [] := by
  obtain ⟨step, fault⟩ := failure
  rw [events_fetch]
  rcases failsFirst_iff.mp first with
    fails | ⟨opened, fails | ⟨executed, fails | ⟨⟨items, fetched⟩, fails⟩⟩⟩
  · obtain ⟨rfl, raised⟩ := fails_iff.mp fails
    have raised : connection.cursorFault = some fault := raised
    rw [raised]
    rfl
  · obtain ⟨rfl, raised⟩ := fails_iff.mp fails
    have failed : (connection.query statement).result = .error _ :=
      query_eq_error_iff.mpr (.inl ⟨fault, raised, rfl⟩)
    rw [opened, failed]
    rfl
  · obtain ⟨rfl, _⟩ := fails_iff.mp fails
    have failed : (connection.query statement).result = .error _ :=
      query_eq_error_iff.mpr (.inr ⟨executed, fault, fetchAll_eq_error_iff.mpr fails, rfl⟩)
    rw [opened, failed]
    rfl
  · obtain ⟨rfl, raised⟩ := fails_iff.mp fails
    rw [opened, query_eq_ok_iff.mpr ⟨executed, fetched⟩]
    rfl

theorem FailsFirst.unique {other : Failure} (first : connection.FailsFirst failure)
    (second : connection.FailsFirst other) : failure = other :=
  FirstFailure.unique Fails.unique first second

theorem calm_or_fails (connection : Connection) :
    (∀ step failure, ¬connection.Fails step failure) ∨
      ∃ failure, connection.FailsFirst failure := by
  by_cases fails : ∃ failure, connection.FailsFirst failure
  · exact .inr fails
  · refine .inl fun step => not_firstFailure_iff.mp (not_exists.mp fails) step ?_
    cases step with
    | _ => simp [Step.inOrder]

def ClosesQuietly (connection : Connection) : Prop :=
  ∀ fault, connection.closeFault = some fault →
    fault.kind ≠ .interrupt ∧ ∃ text, fault.text? = some text

theorem faultAfter_of_quiet (quiet : connection.ClosesQuietly) (fault : Fault) :
    connection.faultAfter fault = fault := by
  unfold faultAfter
  cases raised : connection.closeFault with
  | none => rfl
  | some closing =>
      obtain ⟨ordinary, text, worded⟩ := quiet closing raised
      simp [FaultKind.isOrdinary, ordinary, worded]

theorem notes_of_quiet (step : Step) (quiet : step.leavesOpen = true → connection.ClosesQuietly) :
    connection.Notes step
      (if step.leavesOpen then connection.notedClosing.filterMap Act.event? else []) := by
  split
  · next opened =>
    unfold notedClosing
    cases raised : connection.closeFault with
    | none => exact .nothing (.inr raised)
    | some closing =>
        obtain ⟨ordinary, text, worded⟩ := quiet opened closing raised
        have noted : (noteClosing closing).acts =
            [.log ⟨.warning, "recovery_cursor_close_failed", [("error", .ofCodes text)]⟩] := by
          simp [noteClosing, FaultKind.isOrdinary, ordinary, worded]
        dsimp only
        rw [noted]
        refine .warning opened raised ?_
        intro other worded'
        exact Option.some.inj (worded.symm.trans worded')
  · next closed => exact .nothing (.inl (eq_false_of_ne_true closed))

theorem silent_of_spoiled {fault : Fault} (raised : connection.closeFault = some fault)
    (spoils : fault.kind = .interrupt ∨ fault.text? = none) :
    connection.notedClosing.filterMap Act.event? = [] := by
  unfold notedClosing noteClosing
  rw [raised]
  dsimp only
  rcases spoils with interrupt | unworded
  · rw [interrupt]
    rfl
  · rw [unworded]
    split
    · rfl
    · rfl

theorem not_notes_of_silent {step : Step} {fault : Fault} (opened : step.leavesOpen = true)
    (raised : connection.closeFault = some fault) : ¬connection.Notes step [] := by
  intro notes
  cases notes with
  | nothing calm =>
      rcases calm with closed | calm
      · cases opened.symm.trans closed
      · cases raised.symm.trans calm

theorem kind_endingWith_of_unworded (ordinary : failure.fault.kind ≠ .interrupt)
    (unworded : failure.fault.text? = none) :
    (connection.endingWith failure).kind ≠ .resource := by
  unfold endingWith faultAfter
  rw [Fault.wrapOrdinary_of_unworded ordinary unworded]
  dsimp only
  split
  · split
    · simp [Fault.digitLimit]
    · next closing raised =>
      split
      · split
        · simp [Fault.digitLimit]
        · simp [Fault.digitLimit]
      · next interrupt =>
        intro resource
        simp [resource, FaultKind.isOrdinary] at interrupt
  · simp [Fault.digitLimit]

theorem not_keepsFirst_of_loses (loses : connection.Loses) (statement : Value) :
    ¬connection.KeepsFirst (connection.fetch statement) := by
  intro keeps
  cases loses with
  | unworded first ordinary unworded =>
      have ended := result_of_first first statement
      cases keeps with
      | whole _ _ result _ => cases ended.symm.trans result
      | wrapped _ _ _ result _ =>
          have same := Except.error.inj (ended.symm.trans result)
          exact kind_endingWith_of_unworded ordinary unworded (congrArg Fault.kind same)
      | unwrapped first' interrupt _ _ =>
          cases first.unique first'
          exact ordinary interrupt
  | closing first opened raised spoils =>
      have ended := result_of_first first statement
      have silent := events_of_first first statement
      rw [if_pos opened, silent_of_spoiled raised spoils] at silent
      have lost := not_notes_of_silent opened raised
      cases keeps with
      | whole _ _ result _ => cases ended.symm.trans result
      | wrapped first' _ _ _ noted =>
          cases first.unique first'
          rw [silent] at noted
          exact lost noted
      | unwrapped first' _ _ noted =>
          cases first.unique first'
          rw [silent] at noted
          exact lost noted

theorem keepsFirst_of_not_loses (keeps : ¬connection.Loses) (statement : Value) :
    connection.KeepsFirst (connection.fetch statement) := by
  rcases connection.calm_or_fails with calm | ⟨failure, first⟩
  · have opened : connection.cursorFault = none := passes_iff.mp (calm .opening)
    have executed : connection.executeFault = none := passes_iff.mp (calm .executing)
    have closed : connection.closeFault = none := passes_iff.mp (calm .closing)
    cases fetched : connection.fetchAll.result with
    | error fault => exact absurd (fetchAll_eq_error_iff.mp fetched) (calm _ _)
    | ok items =>
        obtain ⟨_, ending, yields, _⟩ := fetchAll_eq_ok_iff.mp fetched
        refine .whole calm yields (fetch_eq_ok_iff.mpr ⟨opened, executed, fetched, closed⟩) ?_
        rw [events_fetch, opened, query_eq_ok_iff.mpr ⟨executed, fetched⟩]
        rfl
  have quiet : failure.step.leavesOpen = true → connection.ClosesQuietly := by
    intro opened fault raised
    refine ⟨fun interrupt => keeps (.closing first opened raised (.inl interrupt)), ?_⟩
    cases worded : fault.text? with
    | none => exact absurd (.closing first opened raised (.inr worded)) keeps
    | some text => exact ⟨text, rfl⟩
  have unspoiled : connection.endingWith failure =
      failure.fault.wrapOrdinary failure.step.place := by
    unfold endingWith
    dsimp only
    split
    · next opened => exact faultAfter_of_quiet (quiet opened) _
    · rfl
  have ended := result_of_first first statement
  have noted := notes_of_quiet failure.step quiet
  rw [← events_of_first first statement] at noted
  rw [unspoiled] at ended
  by_cases interrupt : failure.fault.kind = .interrupt
  · rw [Fault.wrapOrdinary_of_interrupt interrupt] at ended
    exact .unwrapped first interrupt ended noted
  · cases worded : failure.fault.text? with
    | none => exact absurd (.unworded first interrupt worded) keeps
    | some text =>
        rw [Fault.wrapOrdinary_of_text interrupt worded] at ended
        refine .wrapped first interrupt ?_ ended noted
        intro other worded'
        cases worded.symm.trans worded'
        rfl

theorem keepsFirst_iff_not_loses (connection : Connection) (statement : Value) :
    connection.KeepsFirst (connection.fetch statement) ↔ ¬connection.Loses :=
  ⟨fun keeps loses => not_keepsFirst_of_loses loses statement keeps,
    fun noLoss => keepsFirst_of_not_loses noLoss statement⟩

theorem fetch_of_unworded_closing {closing : Fault} (first : connection.FailsFirst failure)
    (opened : failure.step.leavesOpen = true) (raised : connection.closeFault = some closing)
    (ordinary : closing.kind ≠ .interrupt) (unworded : closing.text? = none) (statement : Value) :
    (connection.fetch statement).result = .error .digitLimit ∧
      (connection.fetch statement).events = [] := by
  refine ⟨?_, ?_⟩
  · rw [result_of_first first, endingWith, if_pos opened, faultAfter, raised]
    simp [FaultKind.isOrdinary, ordinary, unworded]
  · rw [events_of_first first, if_pos opened, silent_of_spoiled raised (.inr unworded)]

theorem unworded_closing_replaces_failure :
    let lost : Fault := .plain (.other "RuntimeError") "gone"
    let long : Fault := .raised (.other "RuntimeError") [.int (10 ^ 5000)] none
    let connection : Connection := ⟨.list [], none, some lost, none, some long⟩
    (∀ step failure, connection.Fails step failure → failure.fault.kind ≠ .interrupt) ∧
      (connection.fetch (.text "SELECT")).result = .error .digitLimit ∧
      (connection.fetch (.text "SELECT")).events = [] ∧
      ¬connection.KeepsFirst (connection.fetch (.text "SELECT")) := by
  intro lost long connection
  have worded : ∀ number : Int,
      (Fault.raised (.other "RuntimeError") [.int number] none).text? =
        (printedInt? number).map Text.codes :=
    fun _ => rfl
  have unworded : long.text? = none :=
    (worded _).trans (congrArg _ (printedInt?_ten_pow (by decide)))
  have first : connection.FailsFirst ⟨.executing, lost⟩ :=
    failsFirst_iff.mpr (.inr ⟨rfl, .inl (.executing rfl)⟩)
  have raised : connection.closeFault = some long := rfl
  obtain ⟨ended, silent⟩ :=
    fetch_of_unworded_closing first rfl raised (by decide) unworded (.text "SELECT")
  refine ⟨?_, ended, silent, not_keepsFirst_of_loses ?_ _⟩
  · intro step failure fails
    cases fails with
    | opening raised => cases raised
    | executing raised =>
        cases raised
        decide
    | fetching raised => cases raised
    | listing _ _ => decide
    | sealed _ closed => cases closed
    | breaking _ yields _ => cases yields
    | closing raised =>
        cases raised
        decide
  · exact .closing first rfl raised (.inr unworded)

end Connection

end InDoubt
