namespace InDoubt.Text

def newline : Nat := 0x0a

inductive CharacterSet where
  | only (code : Nat)
  | allBut (code : Nat)
  | asciiDigits
  deriving DecidableEq, Repr

def CharacterSet.admits : CharacterSet → Nat → Bool
  | .only given, code => code = given
  | .allBut excluded, code => code ≠ excluded
  | .asciiDigits, code => 0x30 ≤ code && code ≤ 0x39

/-- The end is also found before a line break that is the last of the text. -/
inductive Pattern where
  | start
  | ending
  | character (set : CharacterSet)
  | repeated (least : Nat) (set : CharacterSet)
  | group (number : Nat) (inner : Pattern)
  | sequence (first second : Pattern)
  deriving DecidableEq, Repr

abbrev Groups := List (Nat × List Nat)

structure Way where
  taken : List Nat
  rest : List Nat
  groups : Groups
  deriving DecidableEq, Repr

namespace Way

def nothing (codes : List Nat) : Way := ⟨[], codes, []⟩

def including (code : Nat) (way : Way) : Way := { way with taken := code :: way.taken }

def grouped (number : Nat) (way : Way) : Way :=
  { way with groups := way.groups ++ [(number, way.taken)] }

def followedBy (front back : Way) : Way :=
  ⟨front.taken ++ back.taken, back.rest, front.groups ++ back.groups⟩

def isWhole (way : Way) : Bool := way.rest.isEmpty

end Way

/-- The ways to take characters of a set from the front, as many as there are at first, then one
fewer each time. -/
def CharacterSet.runs (set : CharacterSet) : List Nat → List Way
  | [] => [.nothing []]
  | code :: rest =>
      if set.admits code then (set.runs rest).map (.including code) ++ [.nothing (code :: rest)]
      else [.nothing (code :: rest)]

namespace Pattern

def ways : Pattern → Bool → List Nat → List Way
  | .start, atStart, codes => if atStart then [.nothing codes] else []
  | .ending, _, codes => if codes = [] ∨ codes = [newline] then [.nothing codes] else []
  | .character _, _, [] => []
  | .character set, _, code :: rest => if set.admits code then [⟨[code], rest, []⟩] else []
  | .repeated least set, _, codes => (set.runs codes).filter (least ≤ ·.taken.length)
  | .group number inner, atStart, codes => (inner.ways atStart codes).map (.grouped number)
  | .sequence first second, atStart, codes =>
      (first.ways atStart codes).flatMap fun front =>
        (second.ways (atStart && front.taken.isEmpty) front.rest).map front.followedBy

def wholeMatch? (pattern : Pattern) (codes : List Nat) : Option Groups :=
  ((pattern.ways true codes).find? Way.isWhole).map Way.groups

end Pattern

end InDoubt.Text
