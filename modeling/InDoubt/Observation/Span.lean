import InDoubt.Fault
import InDoubt.Observation.Event

namespace InDoubt

inductive SpanStatus where
  | unset
  | error (description : List Nat)
  deriving DecidableEq, Repr

structure Span where
  name : String
  parent : Option String
  attributes : Fields
  status : SpanStatus
  failures : List (String × List Nat)

namespace Span

def maxAttributes : Nat := 128

mutual

/-- The attribute a value becomes: plain values stay as they are, sequences become tuples, and
anything else is given by its text. There is none if a text is needed that cannot be printed. -/
def attribute? : Value → Option Value
  | .list items => (attributeItems? items).map Value.tuple
  | .tuple items => (attributeItems? items).map Value.tuple
  | .dict entries => (attributeEntries? [] entries).map Value.dict
  | .object identity className printed =>
      (Value.object identity className printed).text?.map Value.ofCodes
  | .feed identity className printed items failure =>
      (Value.feed identity className printed items failure).text?.map Value.ofCodes
  | .sealed identity className printed failure =>
      (Value.sealed identity className printed failure).text?.map Value.ofCodes
  | .branch triple => (Value.branch triple).text?.map Value.ofCodes
  | .slice start stop step => (Value.slice start stop step).text?.map Value.ofCodes
  | plain => some plain

def attributeItems? : List Value → Option (List Value)
  | [] => some []
  | item :: rest => do
      let kept ← attribute? item
      let keptRest ← attributeItems? rest
      some (kept :: keptRest)

def attributeEntries? (made : List (Value × Value)) :
    List (Value × Value) → Option (List (Value × Value))
  | [] => some made
  | (key, value) :: rest =>
      if key.isTruthy then do
        let text ← key.text?
        let kept ← attribute? value
        attributeEntries? (Value.setEntry made (.ofCodes text) kept) rest
      else attributeEntries? made rest

end

def setAttribute (attributes : Fields) (key : String) (value : Value) : Fields :=
  let others := attributes.filter (·.1 != key)
  let kept :=
    if others.length = attributes.length && maxAttributes ≤ others.length then others.tail
    else others
  kept ++ [(key, value)]

def start (name : String) (parent : Option String) : Span where
  name := name
  parent := parent
  attributes := []
  status := .unset
  failures := []

def setPlain (span : Span) (key : String) (value : Value) : Span :=
  { span with attributes := setAttribute span.attributes key value }

def set (span : Span) (key value : Value) : Except Fault Span :=
  match key with
  | .text name =>
      if name.isEmpty then .ok span
      else
        match attribute? value with
        | some kept => .ok (span.setPlain name kept)
        | none => .error .digitLimit
  | _ => .ok span

def setEntries (span : Span) : List (Value × Value) → Span × Option Fault
  | [] => (span, none)
  | (key, value) :: rest =>
      match span.set key value with
      | .ok changed => changed.setEntries rest
      | .error fault => (span, some fault)

/-- The fault of a value that is given for attributes and has no entries. A feed has items, but no
way to ask for them. -/
def withoutEntries : Value → Fault
  | .feed _ _ _ _ _ => .plain .wrongType "'list' object is not callable"
  | given =>
      .plain (.other "AttributeError")
        ("'" ++ given.typeName ++ "' object has no attribute 'items'")

def setAll (span : Span) : Value → Span × Option Fault
  | .dict entries => span.setEntries entries
  | given => (span, if given.isTruthy then some (withoutEntries given) else none)

def setEach (span : Span) : List (String × Except Fault Value) → Span × Option Fault
  | [] => (span, none)
  | (name, made) :: rest =>
      match made.bind (span.set (.text name)) with
      | .ok changed => changed.setEach rest
      | .error fault => (span, some fault)

def endWith (span : Span) (fault : Fault) : Span × Fault :=
  if fault.kind.isOrdinary then
    match fault.text? with
    | some text =>
        ({ span with
            status := .error (Fault.placed fault.kind.name text)
            failures := span.failures ++ [(fault.kind.name, text)] }, fault)
    | none => (span, .digitLimit)
  else (span, fault)

end Span

end InDoubt
