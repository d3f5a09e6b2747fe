import InDoubt.Branch.Identifier

namespace InDoubt

namespace BranchId

/-- Equal identifiers have equal hashes. Only an identifier that holds a mutable value verbatim has
none. -/
def hash (id : BranchId) : Except Fault UInt64 :=
  match id.form with
  | .structured triple => .ok (Value.hashTriple triple)
  | .verbatim raw =>
      match raw.hash with
      | .ok code => .ok code
      | .error typeName => .error (.unhashable typeName)

def position (id : BranchId) (among : List BranchId) : Except Fault Nat :=
  match among.findIdx? (· == id) with
  | some found => .ok found
  | none =>
      match id.printed? with
      | some text => .error (.plain .wrongValue (text ++ " is not in list"))
      | none => .error .digitLimit

end BranchId

abbrev Directory (α : Type) := List (BranchId × α)

namespace Directory

variable {α : Type}

def find? (directory : Directory α) (id : BranchId) : Option α :=
  (List.find? (fun entry => entry.1 == id) directory).map Prod.snd

def set (directory : Directory α) (id : BranchId) (value : α) : Directory α :=
  match directory with
  | [] => [(id, value)]
  | (key, old) :: rest =>
      if key == id then (key, value) :: rest else (key, old) :: set rest id value

def insert (directory : Directory α) (id : BranchId) (value : α) :
    Except Fault (Directory α) := do
  let _ ← id.hash
  .ok (directory.set id value)

def lookup (directory : Directory α) (id : BranchId) : Except Fault (Option α) := do
  let _ ← id.hash
  .ok (directory.find? id)

def ofList (entries : List (BranchId × α)) : Except Fault (Directory α) :=
  entries.foldlM (fun directory (id, value) => directory.insert id value) []

def groups (tagged : List (BranchId × α)) : Except Fault (List (List α)) := do
  let grouped : Directory (List α) ← tagged.foldlM (fun directory (id, tag) => do
    let known ← directory.lookup id
    directory.insert id ((known.getD []) ++ [tag])) []
  .ok (grouped.map Prod.snd)

end Directory

end InDoubt
