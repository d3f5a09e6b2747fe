import InDoubt.Proofs.Recovery.Delivery

/-!
How a batch of rows is refused. The first row that stands for no identifier decides, whatever comes
after it; if there is none, the fault with which the rows break off does.
-/

namespace InDoubt

open Outcome

def Ends (failure : Option Fault) : Prop := ∀ fault, failure = some fault → fault.kind = .exhausted

theorem ends_or_breaks (failure : Option Fault) :
    Ends failure ∨ ∃ fault, failure = some fault ∧ fault.kind ≠ .exhausted := by
  by_cases ends : Ends failure
  · exact .inl ends
  · unfold Ends at ends
    push Not at ends
    exact .inr ends

namespace Value

inductive Yields : Value → List Value → Option Fault → Prop
  | feed {identity : Nat} {className printed : String} {items : List Value}
      {failure : Option Fault} :
      Yields (.feed identity className printed items failure) items failure
  | whole {value : Value} {items : List Value} (listed : value.contents? = some ⟨items, none⟩) :
      Yields value items none

variable {value : Value} {items : List Value} {failure : Option Fault} {fault : Fault}

theorem Yields.contents (yields : value.Yields items failure) :
    value.contents? = some ⟨items, failure.filter fun fault => fault.kind != .exhausted⟩ := by
  cases yields with
  | feed => rfl
  | whole listed => exact listed

theorem Yields.contents_of_ends (yields : value.Yields items failure) (ends : Ends failure) :
    value.contents? = some ⟨items, none⟩ := by
  have nothingLeft : (failure.filter fun fault => fault.kind != .exhausted) = none := by
    rw [Option.filter_eq_none_iff]
    intro fault failed
    simp [ends fault failed]
  rw [yields.contents, nothingLeft]

theorem Yields.contents_of_breaks (yields : value.Yields items (some fault))
    (breaks : fault.kind ≠ .exhausted) : value.contents? = some ⟨items, some fault⟩ := by
  rw [yields.contents, Option.filter_some_pos]
  simpa using breaks

theorem exists_yields {contents : Contents} (listed : value.contents? = some contents) :
    value.Yields contents.items contents.failure ∧
      ∀ fault, contents.failure = some fault → fault.kind ≠ .exhausted := by
  obtain ⟨items, failure⟩ := contents
  cases failure with
  | none => exact ⟨.whole listed, fun _ impossible => by cases impossible⟩
  | some fault =>
      cases value with
      | feed identity className printed given failed =>
          simp only [contents?, Option.some.injEq, Contents.mk.injEq,
            Option.filter_eq_some_iff, bne_iff_ne] at listed
          obtain ⟨rfl, rfl, breaks⟩ := listed
          refine ⟨.feed, ?_⟩
          intro other same
          cases same
          exact breaks
      | _ => simp [contents?] at listed

theorem not_yields_of_seal? (closed : value.seal? = some fault) (items : List Value)
    (failure : Option Fault) : ¬value.Yields items failure := by
  intro yields
  cases (contents?_of_seal? closed).symm.trans yields.contents

inductive Iterates (value : Value) : List Value → Option Fault → Prop
  | yielding {items : List Value} {failure : Option Fault} (yields : value.Yields items failure) :
      Iterates value items failure
  | sealed {fault : Fault} (closed : value.seal? = some fault) : Iterates value [] (some fault)

theorem unopened_of_not_iterates (nothing : ∀ items failure, ¬value.Iterates items failure) :
    value.contents? = none ∧ value.seal? = none := by
  refine ⟨?_, Option.eq_none_iff_forall_ne_some.mpr fun fault closed =>
    nothing _ _ (.sealed closed)⟩
  cases listed : value.contents? with
  | none => rfl
  | some contents => exact absurd (.yielding (exists_yields listed).1) (nothing _ _)

theorem sealed_or_not_iterates (unlisted : value.contents? = none) :
    (∃ fault, value.seal? = some fault) ∨
      value.seal? = none ∧ ∀ items failure, ¬value.Iterates items failure := by
  cases closed : value.seal? with
  | some fault => exact .inl ⟨fault, rfl⟩
  | none =>
      refine .inr ⟨rfl, ?_⟩
      intro items failure iterates
      cases iterates with
      | yielding yields => cases unlisted.symm.trans yields.contents
      | sealed closed' => cases closed.symm.trans closed'

end Value

namespace Row

/-- A value that is not taken apart into four columns, and the fault that tells why: it cannot be
iterated, it ends too early or goes on too long, or it breaks off before a fifth column. -/
inductive Misfit (value : Value) : Fault → Prop
  | notIterable (nothing : ∀ items failure, ¬value.Iterates items failure) :
      Misfit value
        (.plain .wrongType ("cannot unpack non-iterable " ++ value.typeName ++ " object"))
  | sealed {fault : Fault} (closed : value.seal? = some fault) : Misfit value fault
  | tooFew {items : List Value} {failure : Option Fault} (yields : value.Yields items failure)
      (ends : Ends failure) (few : items.length < 4) :
      Misfit value
        (.plain .wrongValue
          ("not enough values to unpack (expected 4, got " ++ Nat.repr items.length ++ ")"))
  | tooMany {items : List Value} {failure : Option Fault} (yields : value.Yields items failure)
      (many : 4 < items.length) :
      Misfit value (.plain .wrongValue "too many values to unpack (expected 4)")
  | brokenOff {items : List Value} {fault : Fault} (yields : value.Yields items (some fault))
      (breaks : fault.kind ≠ .exhausted) (noFifth : items.length ≤ 4) : Misfit value fault

def TakenForShape (fault : Fault) : Prop :=
  fault.kind = .wrongType ∨ fault.kind.isWrongValue = true

/-- How a value is refused as a row. One that breaks off with any other fault leaves that fault as
it is. -/
inductive Refuses (value : Value) : Fault → Prop
  | malformed {cause : Fault} {text : String} (misfit : Misfit value cause)
      (shape : TakenForShape cause) (printed : value.printed? = some text) :
      Refuses value
        (.raised .resource
          [.text ("Recovery row must have 4 columns (gid, prepared, owner, database), got " ++
            text)]
          (some cause))
  | foreign {cause : Fault} (misfit : Misfit value cause) (noShape : ¬TakenForShape cause) :
      Refuses value cause
  | untyped {row : Row} (unpacks : Unpacks value row) (noText : row.gid.isText = false) :
      Refuses value (.plain .resource ("Recovery gid must be a string, got " ++ row.gid.typeName))

def Readable (value : Value) : Prop := ∃ row, Unpacks value row ∧ row.gid.isText = true

variable {value : Value} {row : Row} {fault : Fault}

theorem ofValue_of_misfit (misfit : Misfit value fault) : ofValue value = .error fault := by
  cases misfit with
  | notIterable nothing =>
      obtain ⟨unlisted, unsealed⟩ := Value.unopened_of_not_iterates nothing
      simp only [ofValue, unlisted, Value.openingFault, unsealed, Option.getD_none]
  | sealed closed =>
      simp only [ofValue, Value.contents?_of_seal? closed, Value.openingFault, closed,
        Option.getD_some]
  | tooFew yields ends few =>
      simp only [ofValue, yields.contents_of_ends ends]
      split
      · simp only [List.length_cons, List.length_nil] at few
        omega
      · simp only [List.length_cons] at few
        omega
      · next impossible => cases impossible
      · rfl
  | @tooMany items _ yields many =>
      rcases items with _ | ⟨_, _ | ⟨_, _ | ⟨_, _ | ⟨_, _ | ⟨fifth, rest⟩⟩⟩⟩⟩
      case cons.cons.cons.cons.cons => simp only [ofValue, yields.contents]
      all_goals simp at many
  | brokenOff yields breaks noFifth =>
      simp only [ofValue, yields.contents_of_breaks breaks]
      split
      · next impossible => cases impossible
      · simp only [List.length_cons] at noFifth
        omega
      · next same =>
        cases same
        rfl
      · next impossible => cases impossible

theorem unpacks_or_misfit (value : Value) :
    (∃ row, Unpacks value row) ∨ ∃ fault, Misfit value fault := by
  cases listed : value.contents? with
  | none =>
      rcases Value.sealed_or_not_iterates listed with ⟨fault, closed⟩ | ⟨_, nothing⟩
      · exact .inr ⟨fault, .sealed closed⟩
      · exact .inr ⟨_, .notIterable nothing⟩
  | some contents =>
      obtain ⟨yields, breaks⟩ := Value.exists_yields listed
      obtain ⟨items, failure⟩ := contents
      by_cases many : 4 < items.length
      · exact .inr ⟨_, .tooMany yields many⟩
      cases failure with
      | some fault => exact .inr ⟨fault, .brokenOff yields (breaks fault rfl) (Nat.not_lt.mp many)⟩
      | none =>
          by_cases few : items.length < 4
          · exact .inr ⟨_, .tooFew yields (fun _ impossible => by cases impossible) few⟩
          · have four : items.length = 4 := Nat.le_antisymm (Nat.not_lt.mp many) (Nat.not_lt.mp few)
            obtain ⟨gid, prepared, owner, database, rfl⟩ := List.length_eq_four.mp four
            exact .inl ⟨⟨gid, prepared, owner, database⟩, listed⟩

theorem unpacks_of_ofValue (taken : ofValue value = .ok row) : Unpacks value row := by
  rcases unpacks_or_misfit value with ⟨other, unpacks⟩ | ⟨fault, misfit⟩
  · cases taken.symm.trans (ofValue_of_unpacks unpacks)
    exact unpacks
  · cases taken.symm.trans (ofValue_of_misfit misfit)

def Stands (value : Value) (id : BranchId) : Prop := ∃ row, Unpacks value row ∧ row.Identifies id

theorem ofRow_eq_ok_iff_stands {id : BranchId} :
    BranchId.ofRow value = .ok id ↔ Stands value id := by
  rw [BranchId.ofRow_eq_ok_iff]
  refine exists_congr fun row => ?_
  rw [identifier_eq_ok_iff_identifies]
  exact and_congr_left fun _ => ⟨unpacks_of_ofValue, ofValue_of_unpacks⟩

def Printable (value : Value) : Prop :=
  ∀ cause, Misfit value cause → TakenForShape cause → ∃ text, value.printed? = some text

theorem malformed_of_shape {cause : Fault} {text : String} (shape : TakenForShape cause)
    (printed : value.printed? = some text) :
    malformed value cause =
      .raised .resource
        [.text ("Recovery row must have 4 columns (gid, prepared, owner, database), got " ++ text)]
        (some cause) := by
  unfold TakenForShape at shape
  rw [malformed, if_pos (by simpa using shape), printed]

theorem malformed_of_foreign {cause : Fault} (noShape : ¬TakenForShape cause) :
    malformed value cause = cause := by
  unfold TakenForShape at noShape
  rw [malformed, if_neg (by simpa using noShape)]

theorem identifier_of_noText (noText : row.gid.isText = false) :
    row.identifier =
      .error (.plain .resource ("Recovery gid must be a string, got " ++ row.gid.typeName)) := by
  rw [identifier, noText]
  rfl

theorem ofRow_of_unpacks (unpacks : Unpacks value row) : BranchId.ofRow value = row.identifier := by
  rw [BranchId.ofRow, ofValue_of_unpacks unpacks]

theorem ofRow_of_misfit (misfit : Misfit value fault) :
    BranchId.ofRow value = .error (malformed value fault) := by
  rw [BranchId.ofRow, ofValue_of_misfit misfit]

theorem ofRow_of_refuses (refuses : Refuses value fault) : BranchId.ofRow value = .error fault := by
  cases refuses with
  | malformed misfit shape printed =>
      rw [ofRow_of_misfit misfit, malformed_of_shape shape printed]
  | foreign misfit noShape => rw [ofRow_of_misfit misfit, malformed_of_foreign noShape]
  | untyped unpacks noText => rw [ofRow_of_unpacks unpacks, identifier_of_noText noText]

theorem readable_or_refuses (printable : Printable value) :
    Readable value ∨ ∃ fault, Refuses value fault := by
  rcases unpacks_or_misfit value with ⟨row, unpacks⟩ | ⟨cause, misfit⟩
  · cases isText : row.gid.isText with
    | true => exact .inl ⟨row, unpacks, isText⟩
    | false => exact .inr ⟨_, .untyped unpacks isText⟩
  · by_cases shape : TakenForShape cause
    · obtain ⟨text, printed⟩ := printable cause misfit shape
      exact .inr ⟨_, .malformed misfit shape printed⟩
    · exact .inr ⟨cause, .foreign misfit shape⟩

theorem ofRow_of_readable (readable : Readable value) : ∃ id, BranchId.ofRow value = .ok id := by
  obtain ⟨row, unpacks, isText⟩ := readable
  obtain ⟨id, read, _⟩ := exists_identifies unpacks isText
  exact ⟨id, read⟩

theorem Readable.not_refuses (readable : Readable value) (fault : Fault) :
    ¬Refuses value fault := by
  intro refuses
  obtain ⟨id, read⟩ := ofRow_of_readable readable
  cases read.symm.trans (ofRow_of_refuses refuses)

theorem ofRow_eq_error_iff (printable : Printable value) :
    BranchId.ofRow value = .error fault ↔ Refuses value fault := by
  constructor
  · intro refused
    rcases readable_or_refuses printable with readable | ⟨other, refuses⟩
    · obtain ⟨id, read⟩ := ofRow_of_readable readable
      cases refused.symm.trans read
    · cases refused.symm.trans (ofRow_of_refuses refuses)
      exact refuses
  · exact ofRow_of_refuses

theorem ofRow_accepts_iff (printable : Printable value) :
    (∃ id, BranchId.ofRow value = .ok id) ↔ Readable value := by
  constructor
  · intro accepted
    obtain ⟨id, read⟩ := accepted
    rcases readable_or_refuses printable with readable | ⟨fault, refuses⟩
    · exact readable
    · cases read.symm.trans (ofRow_of_refuses refuses)
  · exact ofRow_of_readable

end Row

namespace BranchId

inductive BreaksOff (failure : Option Fault) : Fault → Prop
  | wrapped {cause : Fault} {text : List Nat} (failed : failure = some cause)
      (breaks : cause.kind ≠ .exhausted) (noResource : cause.kind ≠ .resource)
      (noInterrupt : cause.kind ≠ .interrupt) (worded : cause.text? = some text) :
      BreaksOff failure
        (.raised .resource [.ofCodes (Fault.placed "Reading recovery rows failed" text)]
          (some cause))
  | unchanged {cause : Fault} (failed : failure = some cause)
      (left : cause.kind = .resource ∨ cause.kind = .interrupt) : BreaksOff failure cause

theorem breaksOff_iff {cause fault : Fault} {text : List Nat} (breaks : cause.kind ≠ .exhausted)
    (worded : cause.text? = some text) :
    BreaksOff (some cause) fault ↔ brokenOff cause = fault := by
  unfold brokenOff
  constructor
  · intro broken
    cases broken with
    | wrapped failed _ noResource noInterrupt worded' =>
        cases failed
        rw [if_neg noResource, Fault.wrapOrdinary_of_text noInterrupt worded']
    | unchanged failed left =>
        cases failed
        rcases left with resource | interrupt
        · rw [if_pos resource]
        · rw [if_neg (by simp [interrupt]), Fault.wrapOrdinary_of_interrupt interrupt]
  · intro left
    by_cases resource : cause.kind = .resource
    · rw [if_pos resource] at left
      cases left
      exact .unchanged rfl (.inl resource)
    rw [if_neg resource] at left
    by_cases interrupt : cause.kind = .interrupt
    · rw [Fault.wrapOrdinary_of_interrupt interrupt] at left
      cases left
      exact .unchanged rfl (.inr interrupt)
    · rw [Fault.wrapOrdinary_of_text interrupt worded] at left
      cases left
      exact .wrapped rfl breaks resource interrupt worded

theorem BreaksOff.not_ends {failure : Option Fault} {fault : Fault}
    (broken : BreaksOff failure fault) : ¬Ends failure := by
  intro ends
  cases broken with
  | wrapped failed breaks _ _ _ => exact breaks (ends _ failed)
  | unchanged failed left => simp [ends _ failed] at left

variable {rows : Value} {items : List Value} {failure : Option Fault}

/-- Rows are settled by their items and by what comes after these: all of them are read, or the
first that is not decides, or the fault with which they break off does. -/
structure Decides (rows : Value) (items : List Value) (failure : Option Fault) : Prop where
  accepted : ∀ ids, ofRows rows = .ok ids ↔ List.Forall₂ Row.Stands items ids ∧ Ends failure
  refused : ∀ fault, ofRows rows = .error fault ↔
    FirstFailure Row.Refuses items fault ∨
      (∀ item ∈ items, Row.Readable item) ∧ BreaksOff failure fault

theorem decides_of_yields (yields : rows.Yields items failure)
    (printable : ∀ item ∈ items, Row.Printable item)
    (worded : ∀ fault, failure = some fault → ∃ text, fault.text? = some text) :
    Decides rows items failure := by
  have read : ∀ ids, items.mapM ofRow = .ok ids ↔ List.Forall₂ Row.Stands items ids := by
    intro ids
    rw [mapM_eq_ok_iff]
    exact ⟨fun all => all.imp fun _ _ => Row.ofRow_eq_ok_iff_stands.mp,
      fun all => all.imp fun _ _ => Row.ofRow_eq_ok_iff_stands.mpr⟩
  have readable : (∃ ids, items.mapM ofRow = .ok ids) ↔ ∀ item ∈ items, Row.Readable item := by
    rw [mapM_accepts_iff]
    exact forall₂_congr fun item member => Row.ofRow_accepts_iff (printable item member)
  have refused : ∀ fault,
      items.mapM ofRow = .error fault ↔ FirstFailure Row.Refuses items fault := by
    intro fault
    rw [mapM_eq_error_iff_first]
    exact firstFailure_congr fun item member _ => Row.ofRow_eq_error_iff (printable item member)
  -- What comes after the last row matters only if all rows have been read.
  rcases ends_or_breaks failure with ends | ⟨cause, rfl, breaks⟩
  · have whole : ∀ fault, ¬BreaksOff failure fault := fun fault broken => broken.not_ends ends
    have outcome := ofRows_of_contents (yields.contents_of_ends ends)
    refine ⟨?_, ?_⟩
    · intro ids
      simp [outcome, bind_eq_ok_iff, read, ends]
    · intro fault
      simp [outcome, bind_eq_error_iff, refused, whole]
  · obtain ⟨text, worded⟩ := worded cause rfl
    have noEnd : ¬Ends (some cause) := fun ends => breaks (ends cause rfl)
    have outcome := ofRows_of_contents (yields.contents_of_breaks breaks)
    refine ⟨?_, ?_⟩
    · intro ids
      simp [outcome, bind_eq_ok_iff, noEnd]
    · intro fault
      simp [outcome, bind_eq_error_iff, refused, readable, breaksOff_iff breaks worded]

theorem ofRows_of_sealed {fault : Fault} (closed : rows.seal? = some fault) :
    ofRows rows = .error fault := by
  rw [ofRows, take, Value.contents?_of_seal? closed, Value.openingFault, closed]
  rfl

theorem decides_of_sealed_iff {fault : Fault} (closed : rows.seal? = some fault) :
    Decides rows [] (some fault) ↔ fault.kind = .resource ∨ fault.kind = .interrupt := by
  have outcome := ofRows_of_sealed closed
  constructor
  · intro decides
    rcases (decides.refused fault).mp outcome with first | ⟨_, broken⟩
    · exact absurd first not_firstFailure_nil
    · cases broken with
      | wrapped _ _ _ _ _ => exact .inl rfl
      | unchanged failed left =>
          cases failed
          exact left
  · intro left
    have noEnd : ¬Ends (some fault) := by
      intro ends
      simp [ends fault rfl] at left
    refine ⟨?_, ?_⟩
    · intro ids
      rw [outcome]
      simp [noEnd]
    · intro other
      rw [outcome]
      constructor
      · intro same
        cases same
        exact .inr ⟨List.forall_mem_nil _, .unchanged rfl left⟩
      · intro either
        rcases either with first | ⟨_, broken⟩
        · exact absurd first not_firstFailure_nil
        · cases broken with
          | wrapped failed _ noResource noInterrupt _ =>
              cases failed
              rcases left with resource | interrupt
              · exact absurd resource noResource
              · exact absurd interrupt noInterrupt
          | unchanged failed _ =>
              cases failed
              rfl

theorem first_bad_row_decides_unless_sealed (iterates : rows.Iterates items failure)
    (printable : ∀ item ∈ items, Row.Printable item)
    (worded : ∀ fault, failure = some fault → ∃ text, fault.text? = some text) :
    (Decides rows items failure ↔
      ∀ fault, rows.seal? = some fault → fault.kind = .resource ∨ fault.kind = .interrupt) ∧
    ∀ fault, rows.seal? = some fault → ofRows rows = .error fault := by
  refine ⟨?_, fun _ => ofRows_of_sealed⟩
  cases iterates with
  | yielding yields =>
      refine iff_of_true (decides_of_yields yields printable worded) ?_
      intro fault closed
      exact absurd yields (Value.not_yields_of_seal? closed _ _)
  | sealed closed => simp [decides_of_sealed_iff closed, closed]

theorem breaking_row_decides_before_interrupt :
    let lost : Fault := .plain .wrongValue "lost"
    let interrupt : Fault := .raised .interrupt [] none
    let whole : Value := .tuple [.text "1_Zw==_Yg==", .null, .null, .null]
    let breaking : Value :=
      .feed 1 "Row" "<row>" [.text "by-hand", .null, .null, .null] (some lost)
    let untyped : Value := .list [.bytes [53], .null, .null, .null]
    let items : List Value := [whole, breaking, untyped]
    let rows : Value := .feed 0 "Rows" "<rows>" items (some interrupt)
    rows.Iterates items (some interrupt) ∧ (∀ item ∈ items, Row.Printable item) ∧
      (∀ fault, some interrupt = some fault → ∃ text, fault.text? = some text) ∧
      ofRows rows =
        .error (.raised .resource
          [.text "Recovery row must have 4 columns (gid, prepared, owner, database), got <row>"]
          (some lost)) := by
  intro lost interrupt whole breaking untyped items rows
  have iterates : rows.Iterates items (some interrupt) := .yielding .feed
  have printable : ∀ item ∈ items, Row.Printable item := by
    intro item member _ _ _
    simp only [items, List.mem_cons, List.not_mem_nil, or_false] at member
    rcases member with rfl | rfl | rfl
    · exact ⟨_, rfl⟩
    · exact ⟨_, rfl⟩
    · exact ⟨_, rfl⟩
  have worded : ∀ fault, some interrupt = some fault → ∃ text, fault.text? = some text := by
    intro fault same
    cases same
    exact ⟨_, rfl⟩
  have unsealed : ∀ fault, rows.seal? = some fault →
      fault.kind = .resource ∨ fault.kind = .interrupt := by
    intro fault closed
    cases closed
  refine ⟨iterates, printable, worded, ?_⟩
  have decides := (first_bad_row_decides_unless_sealed iterates printable worded).1.mpr unsealed
  apply (decides.refused _).mpr
  refine .inl ⟨[whole], breaking, [untyped], rfl, ?_, ?_⟩
  · intro earlier member
    cases List.mem_singleton.mp member
    have readable : Row.Readable whole := ⟨⟨_, _, _, _⟩, rfl, rfl⟩
    exact readable.not_refuses
  · exact .malformed (.brokenOff .feed (by decide) (by decide)) (.inr rfl) rfl

/-- Rows that lose their connection as soon as they are asked for: the fault is not wrapped. -/
theorem sealed_rows_not_wrapped :
    let lost : Fault := .plain (.other "RuntimeError") "connection lost"
    let rows : Value := .sealed 0 "Rows" "<rows>" lost
    rows.Iterates [] (some lost) ∧ ofRows rows = .error lost ∧ ¬Decides rows [] (some lost) := by
  intro lost rows
  refine ⟨.sealed rfl, rfl, ?_⟩
  rw [decides_of_sealed_iff rfl]
  decide

end BranchId

end InDoubt
