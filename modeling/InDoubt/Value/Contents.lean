import InDoubt.Value

namespace InDoubt

structure Contents where
  items : List Value
  failure : Option Fault

namespace Value

def formatIdValue (formatId : FormatId) : Value :=
  match formatId.look with
  | none => .int formatId.number
  | some look => .derived formatId.number look

theorem number?_formatIdValue (formatId : FormatId) :
    (formatIdValue formatId).number? = some (.int formatId.number) := by
  obtain ⟨number, look⟩ := formatId
  cases look with
  | none => rfl
  | some look => rfl

/-- The contents of a value that can be iterated: characters of a text, numbers of bytes, keys of a
dictionary. A feed that fails by being exhausted just ends. -/
def contents? : Value → Option Contents
  | .text given => some ⟨given.toList.map fun character => .text (String.singleton character), none⟩
  | .brokenText codes _ => some ⟨codes.map fun code => ofCodes [code], none⟩
  | .bytes given => some ⟨given.map fun byte => .int byte.toNat, none⟩
  | .list items => some ⟨items, none⟩
  | .tuple items => some ⟨items, none⟩
  | .dict entries => some ⟨entries.map Prod.fst, none⟩
  | .branch triple =>
      some ⟨[formatIdValue triple.formatId, .text triple.gtrid, .text triple.bqual], none⟩
  | .feed _ _ _ items failure =>
      some ⟨items, failure.filter fun fault => fault.kind != .exhausted⟩
  | _ => none

def seal? : Value → Option Fault
  | .sealed _ _ _ failure => some failure
  | _ => none

/-- The fault of a value that has no contents: its own if it is sealed, and the given one if it
cannot be iterated at all. -/
def openingFault (value : Value) (notIterable : Fault) : Fault := value.seal?.getD notIterable

theorem contents?_of_seal? {value : Value} {fault : Fault} (closed : value.seal? = some fault) :
    value.contents? = none := by
  cases value with
  | sealed identity className printed failure => rfl
  | _ => cases closed

end Value

end InDoubt
