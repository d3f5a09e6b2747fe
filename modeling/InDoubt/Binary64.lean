/-!
Binary floating point numbers of 64 bits, held exactly: a finite one is a whole number of the
smallest positive one, so sums and comparisons are sums and comparisons of natural numbers and
only the result is rounded.
-/

namespace InDoubt

inductive Binary64 where
  | finite (negative : Bool) (units : Nat)
  | infinite (negative : Bool)
  deriving DecidableEq, Repr

namespace Binary64

def unitExponent : Nat := 1074

def precision : Nat := 53

def one : Nat := 1 <<< unitExponent

theorem one_pos : 0 < one := by
  rw [one, Nat.one_shiftLeft]
  exact Nat.two_pow_pos unitExponent

def overflow : Nat := one <<< 1024

def tenTo (exponent : Nat) : Nat := Nat.pow 10 exponent

/-- Rounds a quotient to the given number of significant bits, a tie to the even neighbour. -/
def roundQuotient (numerator denominator : Nat) : Nat :=
  let dropped := (numerator / denominator).log2 + 1 - precision
  let step := denominator <<< dropped
  let lower := numerator / step
  let remainder := numerator % step
  let roundsUp := step < 2 * remainder || (step == 2 * remainder && lower % 2 == 1)
  (if roundsUp then lower + 1 else lower) <<< dropped

def ofUnits (negative : Bool) (units : Nat) : Binary64 :=
  if units < overflow then .finite negative units else .infinite negative

def ofQuotient (negative : Bool) (numerator denominator : Nat) : Binary64 :=
  ofUnits negative (roundQuotient (numerator * one) denominator)

def ofDecimal (negative : Bool) (digits : Nat) (exponent : Int) : Binary64 :=
  let magnitude := exponent + digits.log2 / 3
  if digits = 0 then .finite negative 0
  else if 800 < exponent then .infinite negative
  else if magnitude < -800 then .finite negative 0
  else if 0 ≤ exponent then ofQuotient negative (digits * tenTo exponent.toNat) 1
  else ofQuotient negative digits (tenTo (-exponent).toNat)

def units? : Binary64 → Option Int
  | .finite negative units => some (if negative then -(units : Int) else units)
  | .infinite _ => none

def isFinite : Binary64 → Bool
  | .finite _ _ => true
  | .infinite _ => false

def isNegative : Binary64 → Bool
  | .finite negative units => negative && units != 0
  | .infinite negative => negative

def same (first second : Binary64) : Bool :=
  match first.units?, second.units? with
  | some left, some right => left == right
  | none, none => first.isNegative == second.isNegative
  | _, _ => false

def equalsInt (number : Binary64) (whole : Int) : Bool :=
  number.units? == some (whole * one)

def toInt? (number : Binary64) : Option Int := do
  let units ← number.units?
  if units % one = 0 then some (units / one) else none

def ofInt (whole : Int) : Binary64 := ofQuotient (whole < 0) whole.natAbs 1

def wholePart? (number : Binary64) : Option Int := number.units?.map (·.tdiv one)

def add (first second : Binary64) : Binary64 :=
  match first.units?, second.units? with
  | some left, some right => ofUnits (left + right < 0) (roundQuotient (left + right).natAbs 1)
  | none, _ => first
  | some _, none => second

def addInt (number : Binary64) (whole : Int) : Binary64 :=
  match number.units? with
  | none => number
  | some units =>
      let sum := units + whole * one
      ofUnits (sum < 0) (roundQuotient sum.natAbs 1)

/-- Every positive number times this power of ten has at least as many whole digits as are ever
needed to tell it from its neighbours. -/
def scaleExponent : Nat := 345

structure Decimal where
  digits : Nat
  exponent : Int
  deriving DecidableEq, Repr

/-- Of the two neighbours on the decimal grid with `count` of `whole` scaled digits, the nearer one
that reads back, and of two that are equally near the even one. -/
def readBack? (units whole count : Nat) : Option Decimal :=
  let scaled := units * tenTo scaleExponent
  let step := one * tenTo (whole - count)
  let exponent : Int := (whole : Int) - count - scaleExponent
  let lower := scaled / step
  let readsBack := fun (digits : Nat) =>
    ofDecimal false digits exponent == .finite false units
  let twice := 2 * (scaled % step)
  let lowerIsNearer := twice < step || (twice == step && lower % 2 == 0)
  if readsBack lower && (lowerIsNearer || !readsBack (lower + 1)) then some ⟨lower, exponent⟩
  else if readsBack (lower + 1) then some ⟨lower + 1, exponent⟩
  else none

def scaledDigits (units : Nat) : Nat :=
  (Nat.toDigits 10 (units * tenTo scaleExponent / one)).length

def shortest (units : Nat) : Decimal :=
  let whole := scaledDigits units
  ((List.range 17).findSome? fun fewer => readBack? units whole (fewer + 1)).getD ⟨0, 0⟩

private def zeros (count : Nat) : List Char := List.replicate count '0'

private def positional (digits : List Char) (point : Int) : List Char :=
  if point ≤ 0 then '0' :: '.' :: (zeros (-point).toNat ++ digits)
  else if digits.length ≤ point.toNat then
    digits ++ zeros (point.toNat - digits.length) ++ ['.', '0']
  else digits.take point.toNat ++ '.' :: digits.drop point.toNat

private def scientific (digits : List Char) (power : Int) : List Char :=
  let exponentDigits := Nat.toDigits 10 power.natAbs
  let mantissa := match digits with
    | lead :: rest@(_ :: _) => lead :: '.' :: rest
    | _ => digits
  mantissa ++ 'e' :: (if power < 0 then '-' else '+') ::
    (zeros (2 - exponentDigits.length) ++ exponentDigits)

/-- The fewest digits that read back: positional from `1e-4` up to `1e16`, scientific with an
exponent of at least two digits elsewhere. -/
def written : Binary64 → String
  | .infinite negative => if negative then "-inf" else "inf"
  | .finite negative units =>
      let sign := if negative then ['-'] else []
      let body :=
        if units = 0 then ['0', '.', '0']
        else
          let decimal := shortest units
          let all := Nat.toDigits 10 decimal.digits
          let digits := (all.reverse.dropWhile (· == '0')).reverse
          let point : Int := decimal.exponent + all.length
          if -4 < point ∧ point ≤ 16 then positional digits point
          else scientific digits (point - 1)
      String.ofList (sign ++ body)

end Binary64

end InDoubt
