import InDoubt.Recovery.Row

namespace InDoubt

inductive Holder where
  | identifier
  | form

inductive Attempt where
  | assign (value : Value)
  | delete

namespace Attempt

def onIdentifier (id : BranchId) (fieldName : String) : Attempt → Except Fault BranchId
  | .assign value => id.assign fieldName value
  | .delete => id.delete fieldName

def onForm (form : Form) (fieldName : String) : Attempt → Except Fault Form
  | .assign value => form.assign fieldName value
  | .delete => form.delete fieldName

/-- The identifier that an attempt leaves. It shares in what is done to its form. -/
def outcome (attempt : Attempt) (id : BranchId) (holder : Holder) (fieldName : String) :
    Except Fault BranchId :=
  match holder with
  | .identifier => attempt.onIdentifier id fieldName
  | .form => (attempt.onForm id.form fieldName).map fun form => { id with form }

end Attempt

/-- A value that is an identifier from outside has been checked when it was made. -/
def Value.Sound : Value → Prop
  | .branch triple => triple.Valid
  | _ => True

namespace Session

inductive Request where
  | make (formatId gtrid bqual : Value)
  | decode (given : Value)
  | ofString (given : Value)
  | ensureHeld (position : Nat)
  | ensure (given : Value) (sound : given.Sound)
  | recover (rows : Value)
  | change (position : Nat) (holder : Holder) (fieldName : String) (attempt : Attempt)

structure Reply where
  answer : List BranchId
  held : List BranchId

def find (held : List BranchId) (position : Nat) : Except Fault BranchId :=
  match held[position]? with
  | some id => .ok id
  | none => .error (.plain .outOfRange "list index out of range")

def add (held added : List BranchId) : Reply := ⟨added, held ++ added⟩

def step (held : List BranchId) : Request → Except Fault Reply
  | .make formatId gtrid bqual => do
      let id ← BranchId.ofValues formatId gtrid bqual
      return add held [id]
  | .decode given => do
      let id ← BranchId.decode given
      return add held [id]
  | .ofString given => do
      let id ← BranchId.ofString given
      return add held [id]
  | .ensureHeld position => do
      let id ← find held position
      let same ← BranchId.ensure (.identifier id)
      return ⟨[same], held⟩
  | .ensure given _ => do
      let id ← BranchId.ensure (.value given)
      return add held [id]
  | .recover rows => do
      let ids ← BranchId.ofRows rows
      return add held ids
  | .change position holder fieldName attempt => do
      let id ← find held position
      let changed ← attempt.outcome id holder fieldName
      return ⟨[], held.set position changed⟩

def after (held : List BranchId) (request : Request) : List BranchId :=
  match step held request with
  | .ok reply => reply.held
  | .error _ => held

def run (held : List BranchId) (requests : List Request) : List BranchId :=
  requests.foldl after held

end Session

end InDoubt
