import InDoubt.Branch.Reading
import InDoubt.Value.Contents

/-!
Branch identifiers. One either holds a triple or, when it came as a text of any other shape, that
text as it is; recovery adds what the store knows about the branch.
-/

namespace InDoubt

inductive Form where
  | structured (triple : Triple)
  | verbatim (raw : Value)

structure BranchId where
  form : Form
  prepared : Value
  owner : Value
  database : Value

/-
Identifiers and their forms never change: an attempt to assign or delete anything is refused. A name
that is no field is refused as well, but not in the same words.
-/
namespace Frozen

variable {α : Type}

def refusal (fieldNames : List String) (action name : String) : Fault :=
  if name ∈ fieldNames then .plain .frozen ("cannot " ++ action ++ " field '" ++ name ++ "'")
  else .plain .wrongType "super(type, obj): obj must be an instance or subtype of type"

def assign (fieldNames : List String) (_held : α) (name : String) (_value : Value) :
    Except Fault α :=
  .error (refusal fieldNames "assign to" name)

def delete (fieldNames : List String) (_held : α) (name : String) : Except Fault α :=
  .error (refusal fieldNames "delete" name)

end Frozen

namespace Form

def same : Form → Form → Bool
  | .structured first, .structured second => first.same second
  | .verbatim first, .verbatim second => first.same second
  | _, _ => false

def ofText (text : String) : Except Fault Form :=
  match Flat.parse text with
  | .ok (some triple) => .ok (.structured triple)
  | .ok none => .ok (.verbatim (.text text))
  | .error fault => .error fault

/-- Reads a value as a text. A surrogate is no ASCII character, so a broken text is no flat
text. -/
def read : Value → Except Fault Form
  | .text text => ofText text
  | .brokenText codes broken => .ok (.verbatim (.brokenText codes broken))
  | .bytes _ => .error (.plain .wrongType "cannot use a string pattern on a bytes-like object")
  | other =>
      .error (.plain .wrongType ("expected string or bytes-like object, got '" ++
        other.typeName ++ "'"))

def isUnparsed : Form → Bool
  | .structured _ => false
  | .verbatim _ => true

def flat : Form → Value
  | .structured triple => .text (Flat.write triple)
  | .verbatim raw => raw

def encode : Form → Except Fault Value
  | .structured triple =>
      match Flat.encode triple with
      | .ok text => .ok (.text text)
      | .error refusal => .error refusal.fault
  | .verbatim raw => .ok raw

def printed? : Form → Option String
  | .structured triple => do
      let formatId ← (Value.formatIdValue triple.formatId).printed?
      some ("StructuredXid(format_id=" ++ formatId ++ ", gtrid=" ++ Text.quoted triple.gtrid ++
        ", bqual=" ++ Text.quoted triple.bqual ++ ")")
  | .verbatim raw => do some ("UnparsedXid(raw=" ++ (← raw.printed?) ++ ")")

def fieldNames : Form → List String
  | .structured _ => ["format_id", "gtrid", "bqual"]
  | .verbatim _ => ["raw"]

def assign (form : Form) (name : String) (value : Value) : Except Fault Form :=
  Frozen.assign form.fieldNames form name value

def delete (form : Form) (name : String) : Except Fault Form :=
  Frozen.delete form.fieldNames form name

end Form

namespace BranchId

def ofForm (form : Form) : BranchId := ⟨form, .null, .null, .null⟩

def ofValues (formatId gtrid bqual : Value) : Except Fault BranchId :=
  match Triple.ofValues formatId gtrid bqual with
  | .ok triple => .ok (ofForm (.structured triple))
  | .error refusal => .error refusal.fault

def decode (given : Value) : Except Fault BranchId := (Form.read given).map ofForm

def ofString (given : Value) : Except Fault BranchId := decode given

inductive Candidate where
  | identifier (id : BranchId)
  | value (given : Value)

def Candidate.identifier? : Candidate → Option BranchId
  | .identifier id => some id
  | .value (.branch triple) => some (ofForm (.structured triple))
  | .value _ => none

def Candidate.isIdentifier (candidate : Candidate) : Bool := candidate.identifier?.isSome

def ensure : Candidate → Except Fault BranchId
  | .identifier id => .ok id
  | .value (.branch triple) => .ok (ofForm (.structured triple))
  | .value given =>
      if given.isText then decode given
      else .error (.plain .wrongType "not a valid transaction id")

def isUnparsed (id : BranchId) : Bool := id.form.isUnparsed

def formatId (id : BranchId) : Value :=
  match id.form with
  | .structured triple => Value.formatIdValue triple.formatId
  | .verbatim _ => .null

def gtrid (id : BranchId) : Value :=
  match id.form with
  | .structured triple => .text triple.gtrid
  | .verbatim raw => raw

def bqual (id : BranchId) : Value :=
  match id.form with
  | .structured triple => .text triple.bqual
  | .verbatim _ => .null

def flat (id : BranchId) : Value := id.form.flat

def encode (id : BranchId) : Except Fault Value := id.form.encode

def text (id : BranchId) : Except Fault Value := do
  let written ← id.encode
  if written.isText then .ok written
  else .error (.plain .wrongType ("__str__ returned non-string (type " ++ written.typeName ++ ")"))

def printed? (id : BranchId) : Option String := do
  let extra := fun (name : String) (value : Value) =>
    if value.isNull then some [] else value.printed?.map fun part => [name ++ "=" ++ part]
  let formatId ← id.formatId.printed?
  let gtrid ← id.gtrid.printed?
  let bqual ← id.bqual.printed?
  let prepared ← extra "prepared" id.prepared
  let owner ← extra "owner" id.owner
  let database ← extra "database" id.database
  some ("Xid(" ++ commaSeparated ([formatId, gtrid, bqual] ++ prepared ++ owner ++ database) ++ ")")

instance : BEq BranchId := ⟨fun first second => first.form.same second.form⟩

def equals (id : BranchId) : Value → Bool
  | .branch triple => id.form.same (.structured triple)
  | _ => false

def items (id : BranchId) : List Value := [id.formatId, id.gtrid, id.bqual]

def outOfRange : Fault := .plain .outOfRange "index out of range"

/-- The item at an index, which counts from the back when it is negative. An index of any numeric
type will do if it equals a position. -/
def item (id : BranchId) (index : Value) : Except Fault Value :=
  match index.number? with
  | none =>
      .error (.plain .wrongType ("'<' not supported between instances of '" ++ index.typeName ++
        "' and 'int'"))
  | some given =>
      let position := if given.isNegative then given.addInt 3 else given
      if position.same (.int 0) then .ok id.formatId
      else if position.same (.int 1) then .ok id.gtrid
      else if position.same (.int 2) then .ok id.bqual
      else .error outOfRange

def length (_id : BranchId) : Nat := 3

def itemsBefore (id : BranchId) : Nat → Except Fault (List Value)
  | 0 => .ok []
  | position + 1 =>
      match id.item (.int position) with
      | .ok value => (id.itemsBefore position).map (value :: ·)
      | .error fault =>
          if fault.kind = .outOfRange ∨ fault.kind = .exhausted then .ok [] else .error fault

def reversed (id : BranchId) : Except Fault (List Value) := id.itemsBefore id.length

def contains (id : BranchId) (value : Value) : Bool := id.items.any (·.same value)

def fieldNames : List String := ["form", "prepared", "owner", "database"]

def assign (id : BranchId) (name : String) (value : Value) : Except Fault BranchId :=
  Frozen.assign fieldNames id name value

def delete (id : BranchId) (name : String) : Except Fault BranchId :=
  Frozen.delete fieldNames id name

end BranchId

end InDoubt
