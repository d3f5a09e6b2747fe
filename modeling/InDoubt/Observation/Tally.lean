import InDoubt.Binary64

namespace InDoubt

inductive Increase where
  | failure
  | success
  | structured (amount : Nat)
  | unparsed (amount : Nat)
  | duration
  deriving DecidableEq, Repr

class Count (α : Type) where
  zero : α
  plus : α → Nat → α

instance : Count Nat := ⟨0, (· + ·)⟩

instance : Count Binary64 := ⟨.finite false 0, fun count amount => count.addInt amount⟩

structure Tally (α : Type) where
  success : Option α
  error : Option α
  structured : Option α
  unparsed : Option α
  durations : Nat
  deriving DecidableEq, Repr

namespace Tally

variable {α β : Type}

def empty : Tally α := ⟨none, none, none, none, 0⟩

def add [Count α] (counter : Option α) (amount : Nat) : Option α :=
  some (Count.plus (counter.getD Count.zero) amount)

def record [Count α] (tally : Tally α) : Increase → Tally α
  | .failure => { tally with error := add tally.error 1 }
  | .success => { tally with success := add tally.success 1 }
  | .structured amount => { tally with structured := add tally.structured amount }
  | .unparsed amount => { tally with unparsed := add tally.unparsed amount }
  | .duration => { tally with durations := tally.durations + 1 }

def recordAll [Count α] (tally : Tally α) (increases : List Increase) : Tally α :=
  increases.foldl record tally

def running [Count α] (tally : Tally α) : List (List Increase) → List (Tally α)
  | [] => []
  | increases :: rest => tally.recordAll increases :: running (tally.recordAll increases) rest

@[simp] theorem length_running [Count α] (tally : Tally α) (lots : List (List Increase)) :
    (tally.running lots).length = lots.length := by
  induction lots generalizing tally with
  | nil => rfl
  | cons increases rest shorter => simp [running, shorter]

def read? (tally : Tally α) (number? : α → Option β) : Option (Tally β) := do
  let read := fun (counter : Option α) => counter.mapM number?
  some {
    success := ← read tally.success
    error := ← read tally.error
    structured := ← read tally.structured
    unparsed := ← read tally.unparsed
    durations := tally.durations }

end Tally

end InDoubt
