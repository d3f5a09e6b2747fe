import Mathlib.Data.List.Basic
import InDoubt.Proofs.Branch.RoundTrip

namespace InDoubt

namespace Value

def itemAt? (items : List Value) (index : Int) : Option Value :=
  let offset := if index < 0 then index + items.length else index
  if offset < 0 then none else items[offset.toNat]?

theorem itemAt?_natCast (items : List Value) (position : Nat) :
    itemAt? items position = items[position]? := by
  have fromFront : ¬(position : Int) < 0 := Int.not_lt.mpr (Int.natCast_nonneg position)
  simp only [itemAt?, if_neg fromFront, Int.toNat_natCast]

theorem isSome_itemAt?_iff {items : List Value} {index : Int} :
    (itemAt? items index).isSome = true ↔ -items.length ≤ index ∧ index < items.length := by
  have there : ∀ offset : Int, (if offset < 0 then none else items[offset.toNat]?).isSome = true ↔
      0 ≤ offset ∧ offset < items.length := by
    intro offset
    split
    · simp only [Option.isSome_none, Bool.false_eq_true, false_iff]
      omega
    · rw [isSome_getElem?]
      omega
  rw [itemAt?, there]
  split <;> omega

theorem same_comm_of_text {text : Value} (isText : text.isText = true) (value : Value) :
    text.same value = value.same text := by
  cases text with
  | text given => cases value <;> simp [same, number?, eq_comm]
  | brokenText codes broken => cases value <;> simp [same, number?, eq_comm]
  | _ => simp [Value.isText, codes?] at isText

theorem same_comm_of_whole {whole : Value} {number : Int}
    (isWhole : whole.number? = some (.int number)) (value : Value) :
    whole.same value = value.same whole := by
  have numbers : ∀ other : Number,
      (Number.int number).same other = other.same (.int number) := by
    intro other
    cases other with
    | int number' => exact Bool.beq_comm
    | float number' => rfl
    | notANumber => rfl
  have left : whole.same value = (value.number?.map (Number.int number).same).getD false := by
    cases whole with
    | bool given => cases isWhole; cases value <;> rfl
    | int given => cases isWhole; cases value <;> rfl
    | derived given look => cases isWhole; cases value <;> rfl
    | _ => simp [number?] at isWhole
  have right : value.same whole = (value.number?.map (Number.same · (.int number))).getD false := by
    cases whole with
    | bool given => cases isWhole; cases value <;> rfl
    | int given => cases isWhole; cases value <;> rfl
    | derived given look => cases isWhole; cases value <;> rfl
    | _ => simp [number?] at isWhole
  rw [left, right]
  exact congrArg (fun same => (value.number?.map same).getD false) (funext numbers)

end Value

namespace BranchId

def orOutOfRange (found : Option Value) : Except Fault Value :=
  match found with
  | some value => .ok value
  | none => .error outOfRange

theorem exists_orOutOfRange_iff {found : Option Value} :
    (∃ value, orOutOfRange found = .ok value) ↔ found.isSome = true := by
  cases found with
  | none => simp [orOutOfRange]
  | some value => simp [orOutOfRange]

theorem item_eq_itemAt? (id : BranchId) {index : Value} {position : Int}
    (whole : index.number? = some (.int position)) :
    id.item index = orOutOfRange (Value.itemAt? id.items position) := by
  have count : (id.items.length : Int) = 3 := rfl
  simp only [item, whole, Value.itemAt?, Number.isNegative, Number.addInt, decide_eq_true_eq, count,
    ← apply_ite Number.int, Number.same, beq_iff_eq]
  generalize (if position < 0 then position + 3 else position) = offset
  split
  · next first => rw [first]; rfl
  split
  · next second => rw [second]; rfl
  split
  · next third => rw [third]; rfl
  next notFirst notSecond notThird =>
  split
  · rfl
  · rw [List.getElem?_eq_none]
    · rfl
    · change 3 ≤ offset.toNat
      omega

theorem itemsBefore_eq (id : BranchId) {position : Nat} (within : position ≤ id.items.length) :
    id.itemsBefore position = .ok (id.items.take position).reverse := by
  induction position with
  | zero => rfl
  | succ position beforeEq =>
      have there : id.items[position]? = some id.items[position] :=
        List.getElem?_eq_getElem within
      have asked : id.item (.int position) = .ok id.items[position] := by
        rw [item_eq_itemAt? id rfl, Value.itemAt?_natCast, there, orOutOfRange]
      rw [itemsBefore, asked, beforeEq (Nat.le_of_succ_le within), List.take_add_one, there,
        List.reverse_append]
      rfl

theorem same_comm_of_mem_items {id : BranchId} (held : id.gtrid.isText = true) {item : Value}
    (member : item ∈ id.items) (value : Value) : item.same value = value.same item := by
  obtain ⟨form, prepared, owner, database⟩ := id
  simp only [items, List.mem_cons, List.not_mem_nil, or_false] at member
  cases form with
  | structured triple =>
      rcases member with rfl | rfl | rfl
      · exact Value.same_comm_of_whole (Value.number?_formatIdValue triple.formatId) value
      · exact Value.same_comm_of_text rfl value
      · exact Value.same_comm_of_text rfl value
  | verbatim raw =>
      have nothing : Value.null.same value = value.same .null := by cases value <;> rfl
      rcases member with rfl | rfl | rfl
      · exact nothing
      · exact Value.same_comm_of_text held value
      · exact nothing

theorem contains_iff {id : BranchId} (held : id.gtrid.isText = true) (value : Value) :
    id.contains value = true ↔ ∃ item ∈ id.items, value.same item = true := by
  rw [contains, List.any_eq_true]
  constructor
  · intro ⟨item, member, same⟩
    exact ⟨item, member, same_comm_of_mem_items held member value ▸ same⟩
  · intro ⟨item, member, same⟩
    exact ⟨item, member, (same_comm_of_mem_items held member value).symm ▸ same⟩

theorem contains_null_iff (id : BranchId) : id.contains .null = true ↔ id.isUnparsed = true := by
  obtain ⟨form, prepared, owner, database⟩ := id
  cases form with
  | structured triple =>
      have number : (Value.formatIdValue triple.formatId).same .null = false := by
        rcases Value.formatIdValue_cases triple.formatId with plain | ⟨look, derived⟩
        · rw [plain]
          rfl
        · rw [derived]
          rfl
      have absent : ([Value.formatIdValue triple.formatId, .text triple.gtrid,
          .text triple.bqual].any (·.same .null)) = false := by
        simp only [List.any_cons, List.any_nil, number]
        rfl
      exact iff_of_false (Bool.eq_false_iff.mp absent) Bool.false_ne_true
  | verbatim raw => exact iff_of_true rfl rfl

/-- An identifier is used as a sequence through several operations, each with its own code; all of
them tell of one list. -/
structure IsSequence (id : BranchId) (items : List Value) : Prop where
  indexed : ∀ (index : Value) (position : Int), index.number? = some (.int position) →
    id.item index = orOutOfRange (Value.itemAt? items position)
  length : id.length = items.length
  iterated : id.items = items
  forward : id.items.map Except.ok =
    (List.range id.length).map fun position => id.item (.int position)
  backward : id.reversed = .ok items.reverse
  member : ∀ value, id.contains value = true ↔ ∃ item ∈ items, value.same item = true

theorem sequence_of_components {id : BranchId} (held : id.gtrid.isText = true) :
    id.IsSequence [id.formatId, id.gtrid, id.bqual] ∧
    (∀ (index : Value) (position : Int), index.number? = some (.int position) →
      ((∃ value, id.item index = .ok value) ↔ -3 ≤ position ∧ position ≤ 2)) ∧
    (id.contains .null = true ↔ id.isUnparsed = true) := by
  refine ⟨⟨?_, rfl, rfl, rfl, itemsBefore_eq id (Nat.le_refl 3), contains_iff held⟩, ?_, ?_⟩
  · intro index position whole
    exact item_eq_itemAt? id whole
  · intro index position whole
    have count : (id.items.length : Int) = 3 := rfl
    rw [item_eq_itemAt? id whole, exists_orOutOfRange_iff, Value.isSome_itemAt?_iff, count]
    omega
  · exact contains_null_iff id

theorem sequence_of_components_unread :
    let id := ofForm (.verbatim (.text "x"))
    let member : Value := .derived (-3) (.ofMember "Place" "FIRST" (-3))
    id.item (.bool true) = .ok (.text "x") ∧ id.item member = .ok .null ∧
      id.item (.int (-4)) = .error outOfRange ∧
      (¬∃ value, id.item (.int 0x10000000000000000) = .ok value) ∧
      id.reversed = .ok [.null, .text "x", .null] ∧ id.contains .null = true := by
  intro id member
  obtain ⟨sequence, withinRange, nothing⟩ := @sequence_of_components id rfl
  refine ⟨sequence.indexed (.bool true) 1 rfl, sequence.indexed member (-3) rfl,
    sequence.indexed (.int (-4)) (-4) rfl, ?_, sequence.backward, nothing.mpr rfl⟩
  intro found
  obtain ⟨_, small⟩ := (withinRange (.int 0x10000000000000000) 0x10000000000000000 rfl).mp found
  exact absurd small (by decide)

end BranchId

end InDoubt
