import Mathlib.Algebra.Order.Ring.Nat
import InDoubt.Observation.Metering
import InDoubt.Proofs.Recovery.Counters

namespace InDoubt

namespace Binary64

def ofCount (count : Nat) : Binary64 := .finite false (count * one)

theorem roundQuotient_of_dvd {units : Nat} (zeros : 2 ^ (units.log2 + 1 - precision) ∣ units) :
    roundQuotient units 1 = units := by
  unfold roundQuotient
  rw [Nat.div_one]
  generalize units.log2 + 1 - precision = dropped at zeros
  have noRemainder : units % 2 ^ dropped = 0 := Nat.mod_eq_zero_of_dvd zeros
  simp only [Nat.shiftLeft_eq, Nat.one_mul, noRemainder, Nat.mul_zero, Nat.not_lt_zero,
    decide_false, Bool.false_or]
  rw [if_neg (by simp), Nat.div_mul_cancel zeros]

theorem dropped_dvd {count exponent : Nat} (few : count ≤ 2 ^ precision) :
    2 ^ ((count * 2 ^ exponent).log2 + 1 - precision) ∣ count * 2 ^ exponent := by
  rcases Nat.eq_zero_or_pos count with rfl | positive
  · simp [precision]
  rcases Nat.lt_or_eq_of_le few with fewer | rfl
  · have nonzero : count * 2 ^ exponent ≠ 0 :=
      Nat.ne_of_gt (Nat.mul_pos positive (Nat.two_pow_pos exponent))
    have short : (count * 2 ^ exponent).log2 < precision + exponent := by
      rw [Nat.log2_lt nonzero, Nat.pow_add]
      exact Nat.mul_lt_mul_of_pos_right fewer (Nat.two_pow_pos exponent)
    exact Nat.dvd_mul_left_of_dvd (Nat.pow_dvd_pow 2 (by omega)) count
  · rw [← Nat.pow_add, Nat.log2_two_pow]
    exact Nat.pow_dvd_pow 2 (by unfold precision; omega)

theorem lt_shiftLeft {count unit exponent : Nat} (few : count ≤ 2 ^ precision)
    (wide : precision < exponent) (positive : 0 < unit) : count * unit < unit <<< exponent := by
  rw [Nat.shiftLeft_eq, Nat.mul_comm]
  refine (Nat.mul_lt_mul_left positive).mpr (Nat.lt_of_le_of_lt few ?_)
  exact Nat.pow_lt_pow_right Nat.one_lt_two wide

theorem ofUnits_count {count : Nat} (few : count ≤ 2 ^ precision) :
    ofUnits false (roundQuotient (count * one) 1) = ofCount count := by
  have exact : roundQuotient (count * one) 1 = count * one := by
    rw [one, Nat.one_shiftLeft]
    exact roundQuotient_of_dvd (dropped_dvd few)
  have inRange : count * one < overflow := lt_shiftLeft few (by decide) one_pos
  rw [exact, ofUnits, if_pos inRange]
  rfl

theorem addInt_ofCount {count amount : Nat} (few : count + amount ≤ 2 ^ precision) :
    (ofCount count).addInt amount = ofCount (count + amount) := by
  have sum : (count * one : Nat) + (amount : Int) * one = ((count + amount) * one : Nat) := by
    rw [Nat.add_mul, Int.natCast_add, Int.natCast_mul amount]
  unfold ofCount addInt units?
  simp only [Bool.false_eq_true, if_false, sum, Int.natAbs_natCast]
  rw [decide_eq_false (Int.not_lt.mpr (Int.natCast_nonneg _))]
  exact ofUnits_count few

theorem wholePart?_ofCount (count : Nat) : (ofCount count).wholePart? = some (count : Int) := by
  have positive : (one : Int) ≠ 0 := Int.natCast_ne_zero.mpr (Nat.ne_of_gt one_pos)
  simp only [ofCount, wholePart?, units?, Bool.false_eq_true, if_false, Option.map_some,
    Int.natCast_mul, Int.mul_tdiv_cancel _ positive]

end Binary64

namespace Tally

def map {α β : Type} (change : α → β) (tally : Tally α) : Tally β where
  success := tally.success.map change
  error := tally.error.map change
  structured := tally.structured.map change
  unparsed := tally.unparsed.map change
  durations := tally.durations

/-- No counter has passed the last whole number up to which all are doubles. -/
structure Exact (tally : Tally Nat) : Prop where
  success : tally.success.getD 0 ≤ 2 ^ Binary64.precision
  error : tally.error.getD 0 ≤ 2 ^ Binary64.precision
  structured : tally.structured.getD 0 ≤ 2 ^ Binary64.precision
  unparsed : tally.unparsed.getD 0 ≤ 2 ^ Binary64.precision

theorem add_ofCount {counter : Option Nat} {amount : Nat}
    (few : (add counter amount).getD 0 ≤ 2 ^ Binary64.precision) :
    add (counter.map Binary64.ofCount) amount = (add counter amount).map Binary64.ofCount := by
  have zero : (Count.zero : Binary64) = Binary64.ofCount 0 := by
    rw [Binary64.ofCount, Nat.zero_mul]
    rfl
  have held : (counter.map Binary64.ofCount).getD Count.zero =
      Binary64.ofCount (counter.getD 0) := by
    rw [zero]
    exact Option.getD_map Binary64.ofCount 0 counter
  rw [add, held]
  exact congrArg some (Binary64.addInt_ofCount few)

theorem record_ofCount {tally : Tally Nat} {increase : Increase}
    (exact : (tally.record increase).Exact) :
    (tally.map Binary64.ofCount).record increase =
      (tally.record increase).map Binary64.ofCount := by
  cases increase with
  | failure => simp only [record, map, add_ofCount exact.error]
  | success => simp only [record, map, add_ofCount exact.success]
  | structured amount => simp only [record, map, add_ofCount exact.structured]
  | unparsed amount => simp only [record, map, add_ofCount exact.unparsed]
  | duration => rfl

theorem Exact.before_record {tally : Tally Nat} {increase : Increase}
    (exact : (tally.record increase).Exact) : tally.Exact := by
  obtain ⟨success, error, structured, unparsed⟩ := exact
  cases increase with
  | failure => exact ⟨success, Nat.le_of_add_right_le error, structured, unparsed⟩
  | success => exact ⟨Nat.le_of_add_right_le success, error, structured, unparsed⟩
  | structured amount => exact ⟨success, error, Nat.le_of_add_right_le structured, unparsed⟩
  | unparsed amount => exact ⟨success, error, structured, Nat.le_of_add_right_le unparsed⟩
  | duration => exact ⟨success, error, structured, unparsed⟩

theorem Exact.before_recordAll {tally : Tally Nat} {increases : List Increase}
    (exact : (tally.recordAll increases).Exact) : tally.Exact := by
  induction increases generalizing tally with
  | nil => exact exact
  | cons increase rest restExact => exact (restExact exact).before_record

theorem recordAll_ofCount {tally : Tally Nat} {increases : List Increase}
    (exact : (tally.recordAll increases).Exact) :
    (tally.map Binary64.ofCount).recordAll increases =
      (tally.recordAll increases).map Binary64.ofCount := by
  induction increases generalizing tally with
  | nil => rfl
  | cons increase rest restSame =>
      change ((tally.map Binary64.ofCount).record increase).recordAll rest =
        ((tally.record increase).recordAll rest).map Binary64.ofCount
      have exactNext : (tally.record increase).Exact := Exact.before_recordAll exact
      rw [record_ofCount exactNext]
      exact restSame exact

theorem read?_ofCount (tally : Tally Nat) :
    (tally.map Binary64.ofCount).read? Binary64.wholePart? = some (tally.map Int.ofNat) := by
  have read : ∀ counter : Option Nat, (counter.map Binary64.ofCount).mapM Binary64.wholePart? =
      some (counter.map Int.ofNat) := by
    intro counter
    cases counter with
    | none => rfl
    | some count =>
        change (Binary64.ofCount count).wholePart?.map some = _
        rw [Binary64.wholePart?_ofCount]
        rfl
  simp only [read?, map, read]
  rfl

end Tally

namespace Metering

theorem foldl_count (trips : List Trip) (metering : Metering) (position : Nat) :
    trips.foldl (fun reached trip => reached.count position trip) metering =
      metering.updateTally position (·.recordAll (trips.flatMap Trip.increases)) := by
  induction trips generalizing metering with
  | nil =>
      change metering = { metering with sets := metering.sets.modify position id }
      rw [List.modify_id]
  | cons trip rest restCounted =>
      rw [List.foldl_cons, restCounted, count, updateTally, updateTally, List.modify_modify_eq,
        List.flatMap_cons, updateTally]
      simp only [Tally.recordAll, List.foldl_append]
      rfl

theorem reading_of_run {metering : Metering} {position : Nat} {set : MetricSet}
    (requests : List (Source × String)) (held : metering.sets[position]? = some set)
    (untouched : set.tally = .empty)
    (exact : (Trip.countersAfter (recoverEach requests)).Exact) :
    let trips := (recoverEach requests).map Prod.fst
    let counted := trips.foldl (fun reached trip => reached.count position trip) metering
    ∃ after, counted.sets[position]? = some after ∧
      reading after = .ok ((Trip.countersAfter (recoverEach requests)).map Int.ofNat) := by
  intro trips counted
  have recorded : Tally.empty.recordAll (trips.flatMap Trip.increases) =
      (Trip.countersAfter (recoverEach requests)).map Binary64.ofCount := by
    rw [Trip.countersAfter_recoverEach] at exact ⊢
    exact Tally.recordAll_ofCount exact
  refine ⟨{ set with tally := Tally.empty.recordAll (trips.flatMap Trip.increases) }, ?_, ?_⟩
  · simp only [counted, foldl_count, updateTally, List.getElem?_modify_eq, held]
    rw [← untouched]
    rfl
  · rw [reading, recorded, Tally.read?_ofCount]

end Metering

end InDoubt
