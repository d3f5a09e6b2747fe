import Mathlib.Algebra.Order.Ring.Nat
import InDoubt.Value.Printed

namespace InDoubt

theorem repr_eq_signed_digits (number : Int) :
    number.repr =
      let digits := Nat.toDigits 10 number.natAbs
      String.ofList (if number < 0 then '-' :: digits else digits) := by
  cases number with
  | ofNat size =>
      have noSign : ¬Int.ofNat size < 0 := Int.not_lt.mpr (Int.natCast_nonneg size)
      simp only [if_neg noSign]
      rfl
  | negSucc size =>
      simp only [if_pos (Int.negSucc_lt_zero size), String.ofList_cons]
      rfl

theorem printedInt?_eq (number : Int) :
    printedInt? number =
      if number.natAbs < 10 ^ maxPrintedDigits then some number.repr else none := by
  unfold printedInt? Binary64.tenTo
  rw [repr_eq_signed_digits]
  -- With the limit left open nothing tries to compute the power.
  generalize maxPrintedDigits = limit
  rfl

theorem printedInt?_eq_some_iff {number : Int} {text : String} :
    printedInt? number = some text ↔
      number.natAbs < 10 ^ maxPrintedDigits ∧ number.repr = text := by
  rw [printedInt?_eq]
  generalize 10 ^ maxPrintedDigits = limit
  split
  next short => simp [short]
  next long => simp [long]

theorem printedInt?_accepts_iff {number : Int} :
    (∃ text, printedInt? number = some text) ↔ number.natAbs < 10 ^ maxPrintedDigits := by
  simp only [printedInt?_eq_some_iff]
  exact ⟨fun printed => printed.choose_spec.1, fun short => ⟨number.repr, short, rfl⟩⟩

theorem short_of_lt_pow {size count : Nat} (small : size < 10 ^ count)
    (few : count ≤ maxPrintedDigits) : size < 10 ^ maxPrintedDigits :=
  calc size < 10 ^ count := small
    _ ≤ 10 ^ maxPrintedDigits := Nat.pow_le_pow_right (by decide) few

theorem short_of_digit {size : Nat} (digit : size < 10) : size < 10 ^ maxPrintedDigits :=
  have small : size < 10 ^ 1 := digit
  short_of_lt_pow small (by decide)

theorem printedInt?_of_short {number : Int} (short : number.natAbs < 10 ^ maxPrintedDigits) :
    printedInt? number = some number.repr := by
  rw [printedInt?_eq, if_pos short]

theorem printedInt?_ten_pow {exponent : Nat} (long : maxPrintedDigits ≤ exponent) :
    printedInt? (10 ^ exponent) = none := by
  rw [printedInt?_eq]
  generalize maxPrintedDigits = limit at long
  refine if_neg (Nat.not_lt.mpr ?_)
  rw [Int.natAbs_pow]
  exact Nat.pow_le_pow_right (by decide) long

end InDoubt
