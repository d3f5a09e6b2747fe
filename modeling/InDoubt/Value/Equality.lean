import InDoubt.Value

namespace InDoubt.Value

mutual

def same : Value → Value → Bool
  | .null, .null => true
  | .notANumber first, .notANumber second => first == second
  | .text first, .text second => first == second
  | .brokenText first _, .brokenText second _ => first == second
  | .bytes first, .bytes second => first == second
  | .list first, .list second => sameItems first second
  | .tuple first, .tuple second => sameItems first second
  | .dict first, .dict second => first.length == second.length && includes first second
  | .slice start stop step, .slice start' stop' step' =>
      same start start' && same stop stop' && same step step'
  | .object first _ _, .object second _ _ => first == second
  | .feed first _ _ _ _, .feed second _ _ _ _ => first == second
  | .sealed first _ _ _, .sealed second _ _ _ => first == second
  | .branch first, .branch second => first.same second
  | first, second =>
      match first.number?, second.number? with
      | some left, some right => left.same right
      | _, _ => false

def sameItems : List Value → List Value → Bool
  | [], [] => true
  | first :: rest, second :: others => same first second && sameItems rest others
  | _, _ => false

def includes : List (Value × Value) → List (Value × Value) → Bool
  | [], _ => true
  | (key, value) :: rest, others =>
      others.any (fun (key', value') => same key key' && same value value') && includes rest others

end

def hashNumber : Number → UInt64
  | .int given => Hashable.hash given
  | .float given =>
      match given.toInt? with
      | some whole => Hashable.hash whole
      | none => mixHash (Hashable.hash given.isNegative) (Hashable.hash given.units?)
  | .notANumber => 0

def hashTriple (triple : Triple) : UInt64 :=
  mixHash (Hashable.hash triple.formatId.number)
    (mixHash (Hashable.hash triple.gtrid) (Hashable.hash triple.bqual))

mutual

def hash : Value → Except String UInt64
  | .null => .ok 0
  | .notANumber identity => .ok (Hashable.hash identity)
  | .text given => .ok (Hashable.hash given)
  | .brokenText codes _ => .ok (Hashable.hash codes)
  | .bytes given => .ok (Hashable.hash (given.map UInt8.toNat))
  | .tuple items => hashItems items
  | .object identity _ _ => .ok (Hashable.hash identity)
  | .feed identity _ _ _ _ => .ok (Hashable.hash identity)
  | .sealed identity _ _ _ => .ok (Hashable.hash identity)
  | .branch triple => .ok (hashTriple triple)
  | value =>
      match value.number? with
      | some number => .ok (hashNumber number)
      | none => .error value.typeName

def hashItems : List Value → Except String UInt64
  | [] => .ok 1
  | item :: rest => do .ok (mixHash (← hash item) (← hashItems rest))

end

/-- Sets a key of a dictionary: an equal key keeps its place and gets the new value. -/
def setEntry (entries : List (Value × Value)) (key value : Value) : List (Value × Value) :=
  match entries with
  | [] => [(key, value)]
  | (key', value') :: rest =>
      if same key' key then (key', value) :: rest else (key', value') :: setEntry rest key value

def dictOf (entries : List (Value × Value)) : Value :=
  .dict (entries.foldl (fun made (key, value) => setEntry made key value) [])

end InDoubt.Value
