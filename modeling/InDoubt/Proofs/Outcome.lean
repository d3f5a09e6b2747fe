import Mathlib.Data.List.Forall2

namespace InDoubt.Outcome

variable {ε ε' α β : Type}

theorem bind_eq_ok_iff {first : Except ε α} {next : α → Except ε β} {result : β} :
    (first >>= next) = .ok result ↔ ∃ found, first = .ok found ∧ next found = .ok result := by
  cases first with
  | error failure => simp [bind, Except.bind]
  | ok found => simp [bind, Except.bind]

theorem bind_eq_error_iff {first : Except ε α} {next : α → Except ε β} {failure : ε} :
    (first >>= next) = .error failure ↔
      first = .error failure ∨ ∃ found, first = .ok found ∧ next found = .error failure := by
  cases first with
  | error failure => simp [bind, Except.bind]
  | ok found => simp [bind, Except.bind]

theorem map_eq_ok_iff {first : Except ε α} {change : α → β} {result : β} :
    first.map change = .ok result ↔ ∃ found, first = .ok found ∧ change found = result := by
  cases first with
  | error failure => simp [Except.map]
  | ok found => simp [Except.map]

theorem map_eq_error_iff {first : Except ε α} {change : α → β} {failure : ε} :
    first.map change = .error failure ↔ first = .error failure := by
  cases first with
  | error failure => simp [Except.map]
  | ok found => simp [Except.map]

theorem mapError_eq_ok_iff {first : Except ε α} {change : ε → ε'} {result : α} :
    first.mapError change = .ok result ↔ first = .ok result := by
  cases first with
  | error failure =>
      change Except.error (change failure) = .ok result ↔ Except.error failure = .ok result
      simp
  | ok found =>
      change Except.ok found = .ok result ↔ Except.ok found = .ok result
      simp

theorem mapError_eq_error_iff {first : Except ε α} {change : ε → ε'} {failure : ε'} :
    first.mapError change = .error failure ↔
      ∃ cause, first = .error cause ∧ change cause = failure := by
  cases first with
  | error cause =>
      change Except.error (change cause) = .error failure ↔ _
      simp
  | ok found =>
      change Except.ok found = .error failure ↔ _
      simp

theorem mapM_eq_ok_iff {step : α → Except ε β} {items : List α} {results : List β} :
    items.mapM step = .ok results ↔
      List.Forall₂ (fun item result => step item = .ok result) items results := by
  induction items generalizing results with
  | nil =>
      rw [List.forall₂_nil_left_iff]
      exact ⟨fun done => (Except.ok.inj done).symm, fun same => congrArg Except.ok same.symm⟩
  | cons item rest restTaken =>
      simp only [List.mapM_cons, bind_eq_ok_iff, restTaken, List.forall₂_cons_left_iff]
      constructor
      · intro steps
        obtain ⟨result, first, results, others, made⟩ := steps
        exact ⟨result, results, first, others, (Except.ok.inj made).symm⟩
      · intro steps
        obtain ⟨result, results, first, others, rfl⟩ := steps
        exact ⟨result, first, results, others, rfl⟩

theorem exists_of_mem_mapM {step : α → Except ε β} {items : List α} {results : List β}
    (succeeded : items.mapM step = .ok results) {result : β} (member : result ∈ results) :
    ∃ item ∈ items, step item = .ok result := by
  induction items generalizing results with
  | nil =>
      cases succeeded
      cases member
  | cons item rest restResults =>
      rw [List.mapM_cons] at succeeded
      obtain ⟨first, firstSucceeded, succeeded⟩ := bind_eq_ok_iff.mp succeeded
      obtain ⟨others, othersSucceeded, succeeded⟩ := bind_eq_ok_iff.mp succeeded
      cases succeeded
      rcases List.mem_cons.mp member with rfl | laterMember
      · exact ⟨item, List.mem_cons_self, firstSucceeded⟩
      · obtain ⟨source, sourceMember, sourceSucceeded⟩ := restResults othersSucceeded laterMember
        exact ⟨source, List.mem_cons_of_mem item sourceMember, sourceSucceeded⟩

/-- Of several items that may fail, the first that does decides, whatever comes after it. -/
def FirstFailure (fails : α → ε → Prop) (items : List α) (failure : ε) : Prop :=
  ∃ before item after, items = before ++ item :: after ∧
    (∀ earlier ∈ before, ∀ other, ¬fails earlier other) ∧ fails item failure

variable {fails : α → ε → Prop} {failure : ε}

theorem not_firstFailure_nil : ¬FirstFailure fails [] failure := by
  intro first
  obtain ⟨before, item, after, parts, _⟩ := first
  exact absurd parts.symm (by simp)

theorem firstFailure_cons {item : α} {rest : List α} :
    FirstFailure fails (item :: rest) failure ↔
      fails item failure ∨ (∀ other, ¬fails item other) ∧ FirstFailure fails rest failure := by
  constructor
  · intro first
    obtain ⟨before, found, after, parts, passed, failed⟩ := first
    cases before with
    | nil =>
        cases parts
        exact .inl failed
    | cons earlier before =>
        cases parts
        obtain ⟨itemPassed, passed⟩ := List.forall_mem_cons.mp passed
        exact .inr ⟨itemPassed, before, found, after, rfl, passed, failed⟩
  · intro either
    rcases either with failed | ⟨itemPassed, before, found, after, rfl, passed, failed⟩
    · exact ⟨[], item, rest, rfl, List.forall_mem_nil _, failed⟩
    · exact ⟨item :: before, found, after, rfl, List.forall_mem_cons.mpr ⟨itemPassed, passed⟩,
        failed⟩

theorem firstFailure_append {first rest : List α} :
    FirstFailure fails (first ++ rest) failure ↔
      FirstFailure fails first failure ∨
        (∀ item ∈ first, ∀ other, ¬fails item other) ∧ FirstFailure fails rest failure := by
  induction first with
  | nil => simp [not_firstFailure_nil]
  | cons item items itemsFirst =>
      rw [List.cons_append, firstFailure_cons, firstFailure_cons, itemsFirst, List.forall_mem_cons,
        and_or_left, or_assoc, and_assoc]

theorem not_firstFailure_iff {items : List α} :
    (∀ failure, ¬FirstFailure fails items failure) ↔
      ∀ item ∈ items, ∀ failure, ¬fails item failure := by
  induction items with
  | nil => simp [not_firstFailure_nil]
  | cons item rest restFirst =>
      rw [List.forall_mem_cons, ← restFirst]
      simp only [firstFailure_cons, not_or, not_and, forall_and]
      refine and_congr_right fun itemPassed => ?_
      simp only [itemPassed, not_false_eq_true, implies_true, forall_const]

theorem FirstFailure.unique (unique : ∀ item failure other, fails item failure →
    fails item other → failure = other) {items : List α} {other : ε}
    (first : FirstFailure fails items failure) (second : FirstFailure fails items other) :
    failure = other := by
  induction items with
  | nil => exact absurd first not_firstFailure_nil
  | cons item rest restUnique =>
      rcases firstFailure_cons.mp first with failed | ⟨passed, first⟩
      · rcases firstFailure_cons.mp second with failed' | ⟨passed', _⟩
        · exact unique item failure other failed failed'
        · exact absurd failed (passed' failure)
      · rcases firstFailure_cons.mp second with failed' | ⟨_, second⟩
        · exact absurd failed' (passed other)
        · exact restUnique first second

theorem firstFailure_congr {fails' : α → ε → Prop} {items : List α}
    (agree : ∀ item ∈ items, ∀ failure, fails item failure ↔ fails' item failure) :
    FirstFailure fails items failure ↔ FirstFailure fails' items failure := by
  induction items with
  | nil => simp only [not_firstFailure_nil]
  | cons item rest restAgrees =>
      obtain ⟨itemAgrees, agree⟩ := List.forall_mem_cons.mp agree
      simp only [firstFailure_cons, itemAgrees, restAgrees agree]

/-- A computation that succeeds only if nothing fails, and is refused only for the first failure. -/
theorem refused_iff_firstFailure {ρ : Type} {describe : ρ → ε} {result : Except ρ β}
    {items : List α}
    (unique : ∀ item failure other, fails item failure → fails item other → failure = other)
    (passes : ∀ found, result = .ok found → ∀ item ∈ items, ∀ other, ¬fails item other)
    (first : ∀ refusal, result = .error refusal → FirstFailure fails items (describe refusal)) :
    (∃ refusal, result = .error refusal ∧ describe refusal = failure) ↔
      FirstFailure fails items failure := by
  constructor
  · intro refused
    obtain ⟨refusal, refused, rfl⟩ := refused
    exact first refusal refused
  · intro failed
    cases reached : result with
    | ok found => exact absurd failed (not_firstFailure_iff.mpr (passes found reached) failure)
    | error refusal => exact ⟨refusal, rfl, (first refusal reached).unique unique failed⟩

theorem mapM_eq_error_iff_first {step : α → Except ε β} {items : List α} :
    items.mapM step = .error failure ↔
      FirstFailure (fun item failure => step item = .error failure) items failure := by
  induction items with
  | nil => simp [not_firstFailure_nil, pure, Except.pure]
  | cons item rest restFirst =>
      rw [List.mapM_cons, bind_eq_error_iff, firstFailure_cons, ← restFirst]
      cases stepped : step item with
      | error other => simp
      | ok result => simp [bind_eq_error_iff, pure, Except.pure]

theorem accepts_iff {result : Except ε β} :
    (∃ found, result = .ok found) ↔ ∀ failure, result ≠ .error failure := by
  cases result with
  | error failure => simp
  | ok found => simp

theorem mapM_accepts_iff {step : α → Except ε β} {items : List α} :
    (∃ results, items.mapM step = .ok results) ↔
      ∀ item ∈ items, ∃ result, step item = .ok result := by
  simp only [accepts_iff, ne_eq, mapM_eq_error_iff_first, not_firstFailure_iff]

theorem mapM_eq_error_iff {step : α → Except ε β} {items : List α} {failure : ε} :
    items.mapM step = .error failure ↔
      ∃ before item after results, items = before ++ item :: after ∧
        before.mapM step = .ok results ∧ step item = .error failure := by
  have succeeded : ∀ before : List α, (∃ results, before.mapM step = .ok results) ↔
      ∀ earlier ∈ before, ∀ other, step earlier ≠ .error other := by
    intro before
    rw [mapM_accepts_iff]
    simp only [accepts_iff]
  rw [mapM_eq_error_iff_first]
  constructor
  · intro first
    obtain ⟨before, item, after, parts, passed, failed⟩ := first
    obtain ⟨results, read⟩ := (succeeded before).mpr passed
    exact ⟨before, item, after, results, parts, read, failed⟩
  · intro split
    obtain ⟨before, item, after, results, parts, read, failed⟩ := split
    exact ⟨before, item, after, parts, (succeeded before).mp ⟨results, read⟩, failed⟩

end InDoubt.Outcome
