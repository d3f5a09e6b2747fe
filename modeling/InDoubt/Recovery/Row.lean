import InDoubt.Branch.Identifier
import InDoubt.Recovery.Course

namespace InDoubt

structure Row where
  gid : Value
  prepared : Value
  owner : Value
  database : Value

namespace Row

/-- Takes a value apart into four columns. A fifth is asked for before the row is accepted, so a row
that fails after its fourth column fails. -/
def ofValue (value : Value) : Except Fault Row :=
  match value.contents? with
  | none =>
      .error (value.openingFault
        (.plain .wrongType ("cannot unpack non-iterable " ++ value.typeName ++ " object")))
  | some contents =>
      match contents.items, contents.failure with
      | [gid, prepared, owner, database], none => .ok ⟨gid, prepared, owner, database⟩
      | _ :: _ :: _ :: _ :: _ :: _, _ =>
          .error (.plain .wrongValue "too many values to unpack (expected 4)")
      | _, some fault => .error fault
      | items, none =>
          .error (.plain .wrongValue
            ("not enough values to unpack (expected 4, got " ++ Nat.repr items.length ++ ")"))

/-- The fault of a value that is no row. Only a wrong type or a wrong value is taken for a malformed
row. -/
def malformed (value : Value) (fault : Fault) : Fault :=
  if fault.kind = .wrongType || fault.kind.isWrongValue then
    match value.printed? with
    | some text =>
        .raised .resource
          [.text ("Recovery row must have 4 columns (gid, prepared, owner, database), got " ++
            text)]
          (some fault)
    | none => .digitLimit
  else fault

def identifier (row : Row) : Except Fault BranchId :=
  if row.gid.isText then
    (Form.read row.gid).map fun form => ⟨form, row.prepared, row.owner, row.database⟩
  else
    .error (.plain .resource ("Recovery gid must be a string, got " ++ row.gid.typeName))

end Row

namespace BranchId

def ofRow (value : Value) : Except Fault BranchId :=
  match Row.ofValue value with
  | .ok row => row.identifier
  | .error fault => .error (Row.malformed value fault)

def takeEach : List Value → Course (List BranchId)
  | [] => return []
  | value :: rest => do
      Course.act (.row value)
      let id ← Course.ofResult (ofRow value)
      let ids ← takeEach rest
      return id :: ids

def brokenOff (fault : Fault) : Fault :=
  if fault.kind = .resource then fault else fault.wrapOrdinary "Reading recovery rows failed"

/-- Only what comes after the rows have been opened is wrapped. -/
def take (rows : Value) : Course (List BranchId) :=
  match rows.contents? with
  | none => Course.fail (rows.openingFault (.notIterable rows))
  | some contents => do
      let ids ← takeEach contents.items
      match contents.failure with
      | none => return ids
      | some fault => Course.fail (brokenOff fault)

def ofRows (rows : Value) : Except Fault (List BranchId) := (take rows).result

end BranchId

end InDoubt
