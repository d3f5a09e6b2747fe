import InDoubt.Recovery.Trip
import InDoubt.Settings.Basic

namespace InDoubt

inductive Registry where
  | default
  | custom (identity : Nat)
  deriving DecidableEq, Repr

structure MetricSet where
  registry : Registry
  versioned : Bool
  tally : Tally Binary64
  deriving DecidableEq, Repr

inductive Counter where
  | recoveries
  | recovered
  deriving DecidableEq, Repr

def Counter.labelName : Counter → String
  | .recoveries => "status"
  | .recovered => "form"

structure Metering where
  sets : List MetricSet
  global : Option Nat
  served : List (Nat × Registry)
  deriving DecidableEq, Repr

namespace Metering

def empty : Metering := ⟨[], none, []⟩

def duplicate : Fault := .plain .duplicateSeries "Duplicated timeseries in CollectorRegistry"

def create (metering : Metering) (registry : Registry) : Except Fault (Nat × Metering) :=
  if metering.sets.any (·.registry = registry) then .error duplicate
  else
    .ok (metering.sets.length,
      { metering with sets := metering.sets ++ [⟨registry, false, .empty⟩] })

/-- Sets a set up: it is made, it becomes the global one, and then a server is started for it. A
server that is refused leaves the set where it is. -/
def setup (metering : Metering) (settings : ObservabilitySettings) (registry : Registry)
    (refused : Option Fault) : Except Fault Nat × Metering :=
  match metering.create registry with
  | .error fault => (.error fault, metering)
  | .ok (made, created) =>
      let changed := { created with
        sets := created.sets.modify made fun set => { set with versioned := true }
        global := some made }
      match refused with
      | some fault => (.error fault, changed)
      | none =>
          (.ok made, { changed with
            served := changed.served ++ [(settings.metricsPort, registry)] })

def get (metering : Metering) : Except Fault Nat × Metering :=
  match metering.global with
  | some known => (.ok known, metering)
  | none =>
      match metering.create .default with
      | .error fault => (.error fault, metering)
      | .ok (made, created) => (.ok made, { created with global := some made })

inductive Request where
  | get
  | setup (settings : ObservabilitySettings) (registry : Registry) (refused : Option Fault)

def step (metering : Metering) : Request → Except Fault Nat × Metering
  | .get => metering.get
  | .setup settings registry refused => metering.setup settings registry refused

def answer (metering : Metering) (request : Request) : Except Fault Nat := (metering.step request).1

def after (metering : Metering) (request : Request) : Metering := (metering.step request).2

def run (metering : Metering) (requests : List Request) : Metering := requests.foldl after metering

def updateTally (metering : Metering) (position : Nat)
    (update : Tally Binary64 → Tally Binary64) : Metering :=
  { metering with
    sets := metering.sets.modify position fun set => { set with tally := update set.tally } }

def addTo (counter : Counter) (label : String) (amount : Binary64) (tally : Tally Binary64) :
    Tally Binary64 :=
  let increased := fun (before : Option Binary64) =>
    some ((before.getD Count.zero).add amount)
  match counter with
  | .recoveries =>
      if label = "success" then { tally with success := increased tally.success }
      else if label = "error" then { tally with error := increased tally.error }
      else tally
  | .recovered =>
      if label = "structured" then { tally with structured := increased tally.structured }
      else if label = "unparsed" then { tally with unparsed := increased tally.unparsed }
      else tally

def wrongLabels : Fault := .plain .wrongValue "Incorrect label names"

def overflow (message : String) : Fault := .plain (.other "OverflowError") message

def amountOf (amount : Int) : Except Fault Binary64 :=
  if amount < 0 then
    .error (.plain .wrongValue "Counters can only be incremented by non-negative amounts.")
  else
    match Binary64.ofInt amount with
    | .infinite _ => .error (overflow "int too large to convert to float")
    | number => .ok number

/-- Adds to a counter of a set. The counter must get its own label and no other; asking for it
touches it, even when the amount is then refused. -/
def increment (metering : Metering) (position : Nat) (counter : Counter)
    (labels : List (String × String)) (amount : Int) : Except Fault Unit × Metering :=
  match labels with
  | [(name, label)] =>
      if name = counter.labelName then
        match amountOf amount with
        | .error fault =>
            (.error fault, metering.updateTally position (addTo counter label Count.zero))
        | .ok number => (.ok (), metering.updateTally position (addTo counter label number))
      else (.error wrongLabels, metering)
  | _ => (.error wrongLabels, metering)

def count (metering : Metering) (position : Nat) (trip : Trip) : Metering :=
  metering.updateTally position (·.recordAll trip.increases)

def reading (set : MetricSet) : Except Fault (Tally Int) :=
  match set.tally.read? Binary64.wholePart? with
  | some tally => .ok tally
  | none => .error (overflow "cannot convert float infinity to integer")

structure Description where
  name : String
  kind : String
  help : String
  buckets : List String
  deriving DecidableEq, Repr

def descriptions : List Description := [
  ⟨"xa_xid", "info", "Transaction id codec information", []⟩,
  ⟨"xid_recovered", "counter", "Total identifiers returned by recovery", []⟩,
  ⟨"xid_recoveries", "counter", "Total recovery round trips", []⟩,
  ⟨"xid_recovery_duration_seconds", "histogram", "Recovery round trip duration in seconds",
    ["0.001", "0.005", "0.01", "0.025", "0.05", "0.1", "0.25", "0.5", "1.0", "2.5", "5.0",
      "+Inf"]⟩]

end Metering

end InDoubt
