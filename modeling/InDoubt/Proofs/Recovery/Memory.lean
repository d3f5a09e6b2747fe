import InDoubt.Proofs.Recovery.Escapes
import InDoubt.Proofs.Recovery.Records

namespace InDoubt

open Outcome

namespace Fault

theorem kind_leaving_wrapOrdinary {fault : Fault} (ordinary : fault.kind ≠ .interrupt)
    (place : String) :
    (fault.wrapOrdinary place).leaving.kind = .resource ∨
      (fault.wrapOrdinary place).leaving.kind = .wrongValue := by
  cases worded : fault.text? with
  | none =>
      rw [wrapOrdinary_of_unworded ordinary worded, leaving_digitLimit]
      exact .inr rfl
  | some text =>
      rw [wrapOrdinary_of_text ordinary worded, leaving_of_text (text?_resource _ _)]
      exact .inl rfl

theorem leaving_eq_self_iff {fault : Fault} :
    fault.leaving = fault ↔ ¬(fault.kind.isOrdinary = true ∧ fault.text? = none) := by
  unfold leaving
  split
  · next unworded =>
    refine iff_of_false ?_ (not_not_intro unworded)
    intro same
    rw [← same, digitLimit, text?_plain .wrongValue _ (by decide)] at unworded
    cases unworded.2
  · next worded => exact iff_of_true rfl worded

end Fault

namespace Connection

inductive Place where
  | step (step : Step)
  | row

def FailsOnlyAt (connection : Connection) (step : Step) : Prop :=
  ∀ other failure, connection.Fails other failure → other = step

/-- A fault is raised in one place, and nothing that is done besides fails. -/
inductive RaisesOnly (connection : Connection) (fault : Fault) : Place → Prop
  | step {step : Step} (fails : connection.Fails step ⟨step, fault⟩)
      (alone : connection.FailsOnlyAt step) : RaisesOnly connection fault (.step step)
  | row {before after columns : List Value} {value : Value}
      (yields : connection.Yields (before ++ value :: after))
      (readable : ∀ item ∈ before, Row.Readable item)
      (broken : value.Iterates columns (some fault)) (noFifth : columns.length ≤ 4) :
      RaisesOnly connection fault .row

variable {connection : Connection} {step : Step} {fault : Fault}

theorem failsOnlyAt_of_faultOf (calm : ∀ other, other ≠ step → connection.faultOf other = none) :
    connection.FailsOnlyAt step := by
  intro other failure fails
  refine Classical.byContradiction fun differs => ?_
  exact passes_iff.mpr (calm other differs) failure fails

theorem failsFirst_of_alone (fails : connection.Fails step ⟨step, fault⟩)
    (alone : connection.FailsOnlyAt step) : connection.FailsFirst ⟨step, fault⟩ := by
  rcases connection.calm_or_fails with calm | ⟨failure, first⟩
  · exact absurd fails (calm step _)
  · have ⟨_, other, _, _, _, failsToo⟩ := first
    cases alone other failure failsToo
    cases Fails.unique step _ _ fails failsToo
    exact first

theorem closes_of_alone (alone : connection.FailsOnlyAt step) (opened : step.leavesOpen = true) :
    connection.closeFault = none := by
  cases raised : connection.closeFault with
  | none => rfl
  | some closing =>
      cases alone .closing ⟨.closing, closing⟩ (.closing raised)
      cases opened

theorem fetch_of_alone (fails : connection.Fails step ⟨step, fault⟩)
    (alone : connection.FailsOnlyAt step) (statement : Value) :
    (connection.fetch statement).result = .error (fault.wrapOrdinary step.place) ∧
      (connection.fetch statement).events = [] := by
  have first := failsFirst_of_alone fails alone
  rw [result_of_first first, events_of_first first, endingWith]
  dsimp only
  split
  · next opened =>
    have closes := closes_of_alone alone opened
    simp [faultAfter, notedClosing, closes]
  · exact ⟨rfl, rfl⟩

theorem identifiers_of_alone (fails : connection.Fails step ⟨step, fault⟩)
    (alone : connection.FailsOnlyAt step) (statement : String) :
    ((Source.database connection).identifiers statement).result =
      .error (fault.wrapOrdinary step.place) :=
  identifiers_eq_error_iff.mpr (.inl (fetch_of_alone fails alone _).1)

theorem ofRow_of_memory {value : Value} {columns : List Value}
    (broken : value.Iterates columns (some fault)) (noFifth : columns.length ≤ 4)
    (memory : fault.kind = .memory) : BranchId.ofRow value = .error fault := by
  have misfit : Row.Misfit value fault := by
    cases broken with
    | yielding yields => exact .brokenOff yields (by simp [memory]) noFifth
    | sealed closed => exact .sealed closed
  have noShape : ¬Row.TakenForShape fault := by
    simp [Row.TakenForShape, memory, FaultKind.isWrongValue]
  rw [Row.ofRow_of_misfit misfit, Row.malformed_of_foreign noShape]

theorem identifiers_of_row {before after columns : List Value} {value : Value}
    (yields : connection.Yields (before ++ value :: after))
    (readable : ∀ item ∈ before, Row.Readable item)
    (broken : value.Iterates columns (some fault)) (noFifth : columns.length ≤ 4)
    (memory : fault.kind = .memory) (statement : String) :
    ((Source.database connection).identifiers statement).result = .error fault := by
  have read : ∃ ids, before.mapM BranchId.ofRow = .ok ids :=
    mapM_accepts_iff.mpr fun item member => Row.ofRow_of_readable (readable item member)
  obtain ⟨ids, read⟩ := read
  refine identifiers_eq_error_iff.mpr (.inr ⟨_, fetch_of_yields yields _, ?_⟩)
  exact mapM_eq_error_iff.mpr
    ⟨before, value, after, ids, rfl, read, ofRow_of_memory broken noFifth memory⟩

end Connection

namespace Trip

open Connection

variable {connection : Connection} {step : Step} {fault : Fault}

theorem recover_of_alone {text : List Nat} (fails : connection.Fails step ⟨step, fault⟩)
    (alone : connection.FailsOnlyAt step) (ordinary : fault.kind ≠ .interrupt)
    (worded : fault.text? = some text) (statement : String) :
    let trip := recover (.database connection) statement
    trip.outcome =
        .error (.raised .resource [.ofCodes (Fault.placed step.place text)] (some fault)) ∧
      trip.increases = [.failure] ∧
      trip.events = [started statement, failed (Fault.placed step.place text)] := by
  intro trip
  have met := identifiers_of_alone fails alone statement
  rw [Fault.wrapOrdinary_of_text ordinary worded] at met
  obtain ⟨ended, counted, _⟩ := of_proper met rfl (Fault.text?_resource _ _)
  refine ⟨ended, counted, ?_⟩
  rw [events_of_error met, Source.events_ask_database,
    (fetch_of_alone fails alone (.text statement)).2, events_report, Fault.text?_resource]
  rfl

theorem memory_passes_iff_in_row {place : Place} (raises : connection.RaisesOnly fault place)
    (memory : fault.kind = .memory) (statement : String) :
    let trip := recover (.database connection) statement
    ((trip.outcome = .error fault ∧ trip.increases = []) ↔
      place = .row ∧ ∃ text, fault.text? = some text) ∧
    ∀ step text, place = .step step → fault.text? = some text →
      trip.outcome =
          .error (.raised .resource [.ofCodes (Fault.placed step.place text)] (some fault)) ∧
        trip.increases = [.failure] ∧
        trip.events = [started statement, failed (Fault.placed step.place text)] := by
  intro trip
  have ordinary : fault.kind ≠ .interrupt := by simp [memory]
  cases raises with
  | @step step fails alone =>
      refine ⟨?_, ?_⟩
      · refine iff_of_false ?_ (by simp)
        intro passes
        -- What leaves is of another kind than what was raised, whatever its text.
        rw [(of_error (identifiers_of_alone fails alone statement)).1] at passes
        have same := congrArg Fault.kind (Except.error.inj passes.1)
        rcases Fault.kind_leaving_wrapOrdinary ordinary step.place with resource | wrongValue
        · cases memory.symm.trans (same.symm.trans resource)
        · cases memory.symm.trans (same.symm.trans wrongValue)
      · intro step' text same worded
        cases same
        exact recover_of_alone fails alone ordinary worded statement
  | row yields readable broken noFifth =>
      have met := identifiers_of_row yields readable broken noFifth memory statement
      refine ⟨?_, fun _ _ impossible => by cases impossible⟩
      rw [(of_error met).1, increases_of_error met, Except.error.injEq, Fault.leaving_eq_self_iff]
      simp [memory, FaultKind.isOrdinary, Option.ne_none_iff_exists']

theorem memory_passes_iff_in_row_closing :
    let memory : Fault := .plain .memory "no room"
    let row : Value := .tuple [.text "1_Zw==_Yg==", .null, .null, .null]
    let connection : Connection := ⟨.list [row], none, none, none, some memory⟩
    connection.RaisesOnly memory (.step .closing) ∧ memory.kind = .memory ∧
      (recover (.database connection) "SELECT").outcome =
        .error (.raised .resource [.text "Could not close cursor: no room"] (some memory)) ∧
      (recover (.database connection) "SELECT").increases = [.failure] := by
  intro memory row connection
  have alone : connection.FailsOnlyAt .closing := by
    refine failsOnlyAt_of_faultOf fun other differs => ?_
    cases other with
    | closing => exact absurd rfl differs
    | _ => rfl
  have raises : connection.RaisesOnly memory (.step .closing) := .step (.closing rfl) alone
  obtain ⟨ended, counted, _⟩ :=
    (memory_passes_iff_in_row raises rfl "SELECT").2 .closing (Text.codes "no room") rfl rfl
  rw [Fault.placed_codes, Value.ofCodes_codes] at ended
  exact ⟨raises, rfl, ended, counted⟩

/-- A row that runs out of memory while it is taken apart: this passes. -/
example :
    let memory : Fault := .plain .memory "no room"
    let row : Value := .feed 1 "Row" "<row>" [.text "1_Zw==_Yg=="] (some memory)
    let trip := recover (.database ⟨.list [row], none, none, none, none⟩) "SELECT"
    trip.outcome = .error memory ∧ trip.increases = [] := ⟨rfl, rfl⟩

theorem memory_of_executing_wrapped :
    let memory : Fault := .raised .memory [] none
    let connection : Connection := ⟨.list [], none, some memory, none, none⟩
    connection.Fails .executing ⟨.executing, memory⟩ ∧ connection.FailsOnlyAt .executing ∧
      (recover (.database connection) "SELECT").outcome =
        .error (.raised .resource [.text "Recovery query failed: "] (some memory)) ∧
      (recover (.database connection) "SELECT").outcome ≠ .error memory ∧
      (recover (.database connection) "SELECT").increases = [.failure] := by
  intro memory connection
  have fails : connection.Fails .executing ⟨.executing, memory⟩ := .executing rfl
  have alone : connection.FailsOnlyAt .executing := by
    refine failsOnlyAt_of_faultOf fun other differs => ?_
    cases other with
    | executing => exact absurd rfl differs
    | _ => rfl
  have worded : memory.text? = some (Text.codes "") := rfl
  obtain ⟨ended, counted, _⟩ := recover_of_alone fails alone (by decide) worded "SELECT"
  rw [Fault.placed_codes, Value.ofCodes_codes] at ended
  refine ⟨fails, alone, ended, ?_, counted⟩
  rw [ended]
  simp [memory]

end Trip

end InDoubt
