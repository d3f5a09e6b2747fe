import InDoubt.Recovery.Course
import InDoubt.Value.Contents

namespace InDoubt

structure Connection where
  rows : Value
  cursorFault : Option Fault
  executeFault : Option Fault
  fetchFault : Option Fault
  closeFault : Option Fault

namespace Connection

variable {α : Type}

def call (made : Call) (fault : Option Fault) : Course Unit := do
  Course.act (.call made)
  match fault with
  | some fault => Course.fail fault
  | none => pure ()

def fetchedItems (rows : Value) : Except Fault (List Value) :=
  match rows.contents? with
  | none => .error (rows.openingFault (.notIterable rows))
  | some contents =>
      match contents.failure with
      | some fault => .error fault
      | none => .ok contents.items

def fetchAll (connection : Connection) : Course (List Value) := do
  call .fetchAll connection.fetchFault
  Course.ofResult (fetchedItems connection.rows)

def query (connection : Connection) (statement : Value) : Course (List Value) := do
  (call (.execute statement) connection.executeFault).wrapping "Recovery query failed"
  connection.fetchAll.wrapping "Fetching prepared transactions failed"

def openCursor (connection : Connection) : Course Unit :=
  (call .cursor connection.cursorFault).wrapping "Could not open cursor"

def close (connection : Connection) : Course Unit :=
  (call .close connection.closeFault).wrapping "Could not close cursor"

def noteClosing (fault : Fault) : Course Unit :=
  if fault.kind.isOrdinary then
    match fault.text? with
    | some text =>
        Course.act (.log ⟨.warning, "recovery_cursor_close_failed", [("error", .ofCodes text)]⟩)
    | none => Course.fail .digitLimit
  else Course.fail fault

def closeAfter (connection : Connection) (failure : Fault) : Course α := do
  (call .close connection.closeFault).rescue noteClosing
  Course.fail failure

/-- Does something with an open cursor. It is closed in one place after a failure and in another
after none. -/
def withCursor (connection : Connection) (body : Course α) : Course α := do
  connection.openCursor
  let found ← body.rescue connection.closeAfter
  connection.close
  return found

def fetch (connection : Connection) (statement : Value) : Course (List Value) :=
  connection.withCursor (connection.query statement)

end Connection

end InDoubt
