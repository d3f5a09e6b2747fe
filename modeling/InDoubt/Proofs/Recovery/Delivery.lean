import Mathlib.Data.List.Forall2
import InDoubt.Proofs.Branch.Lookup
import InDoubt.Proofs.Recovery.Endings
import InDoubt.Proofs.Recovery.Fetching

namespace InDoubt

open Outcome

namespace Row

def Unpacks (value : Value) (row : Row) : Prop :=
  value.contents? = some ⟨[row.gid, row.prepared, row.owner, row.database], none⟩

structure Identifies (row : Row) (id : BranchId) : Prop where
  read : Form.read row.gid = .ok id.form
  prepared : id.prepared = row.prepared
  owner : id.owner = row.owner
  database : id.database = row.database

/-- An identifier stands for a row: it names the branch that the text of the row names, and has the
other columns as they are. -/
structure Delivers (row : Row) (id : BranchId) : Prop where
  text : id.text = .ok row.gid
  decoded : ∃ plain, BranchId.decode row.gid = .ok plain ∧ (id == plain) = true
  prepared : id.prepared = row.prepared
  owner : id.owner = row.owner
  database : id.database = row.database

variable {value : Value} {row : Row}

theorem ofValue_of_unpacks (unpacks : Unpacks value row) : ofValue value = .ok row := by
  rw [Unpacks] at unpacks
  simp only [ofValue, unpacks]

theorem identifier_eq_ok_iff_identifies {id : BranchId} :
    row.identifier = .ok id ↔ row.Identifies id := by
  rw [identifier_eq_ok_iff]
  constructor
  · intro read
    obtain ⟨form, found, rfl⟩ := read
    exact ⟨found, rfl, rfl, rfl⟩
  · intro identifies
    obtain ⟨form, prepared, owner, database⟩ := id
    obtain ⟨found, rfl, rfl, rfl⟩ := identifies
    exact ⟨form, found, rfl⟩

theorem exists_identifies (unpacks : Unpacks value row) (isText : row.gid.isText = true) :
    ∃ id, BranchId.ofRow value = .ok id ∧ row.Identifies id := by
  obtain ⟨form, found⟩ := Form.read_total isText
  refine ⟨⟨form, row.prepared, row.owner, row.database⟩, ?_, found, rfl, rfl, rfl⟩
  apply BranchId.ofRow_eq_ok_iff.mpr
  refine ⟨row, ofValue_of_unpacks unpacks, ?_⟩
  apply identifier_eq_ok_iff_identifies.mpr
  exact ⟨found, rfl, rfl, rfl⟩

theorem Identifies.delivers {id : BranchId} (identifies : row.Identifies id) :
    row.Delivers id := by
  obtain ⟨canonical, unchanged⟩ := Form.canonical_of_read identifies.read
  refine ⟨?_, ⟨.ofForm id.form, ?_, ?_⟩, identifies.prepared, identifies.owner,
    identifies.database⟩
  · rw [← unchanged]
    apply (BranchId.text_eq_flat_iff canonical).mpr
    exact Form.writesDigits_of_read identifies.read
  · apply BranchId.decode_eq_ok_iff.mpr
    exact ⟨id.form, identifies.read, rfl⟩
  · exact (Form.same_iff_flat_eq canonical canonical).mpr rfl

end Row

namespace BranchId

variable {items : List Value} {rows : List Row}

theorem mapM_ofRow_identifies (unpacks : List.Forall₂ Row.Unpacks items rows)
    (texts : ∀ row ∈ rows, row.gid.isText = true) :
    ∃ ids, items.mapM ofRow = .ok ids ∧ List.Forall₂ Row.Identifies rows ids := by
  induction unpacks with
  | nil => exact ⟨[], rfl, .nil⟩
  | @cons value row values rows first _ restIdentifies =>
      obtain ⟨isText, restTexts⟩ := List.forall_mem_cons.mp texts
      obtain ⟨id, read, identifies⟩ := Row.exists_identifies first isText
      obtain ⟨ids, restRead, restIdentifies⟩ := restIdentifies restTexts
      refine ⟨id :: ids, ?_, .cons identifies restIdentifies⟩
      rw [List.mapM_cons, read, restRead]
      rfl

theorem mapM_ofRow_delivers (unpacks : List.Forall₂ Row.Unpacks items rows)
    (texts : ∀ row ∈ rows, row.gid.isText = true) :
    ∃ ids, items.mapM ofRow = .ok ids ∧ List.Forall₂ Row.Delivers rows ids := by
  obtain ⟨ids, read, identifies⟩ := mapM_ofRow_identifies unpacks texts
  exact ⟨ids, read, identifies.imp fun _ _ identified => identified.delivers⟩

end BranchId

/-- A connection on which nothing fails and which yields some items. -/
structure Connection.Yields (connection : Connection) (items : List Value) : Prop where
  opens : connection.cursorFault = none
  executes : connection.executeFault = none
  fetches : connection.fetchFault = none
  closes : connection.closeFault = none
  contents : connection.rows.contents? = some ⟨items, none⟩

theorem Connection.fetch_of_yields {connection : Connection} {items : List Value}
    (yields : connection.Yields items) (statement : Value) :
    (connection.fetch statement).result = .ok items := by
  refine fetch_eq_ok_iff.mpr ⟨yields.opens, yields.executes, ?_, yields.closes⟩
  rw [fetchAll, yields.fetches, fetchedItems, yields.contents]
  rfl

namespace Trip

theorem recover_delivers {connection : Connection} {items : List Value} {rows : List Row}
    (statement : String) (yields : connection.Yields items)
    (unpacks : List.Forall₂ Row.Unpacks items rows)
    (texts : ∀ row ∈ rows, row.gid.isText = true) :
    ∃ ids, (recover (.database connection) statement).outcome = .ok ids ∧
      ids.length = items.length ∧ List.Forall₂ Row.Delivers rows ids := by
  obtain ⟨ids, read, delivers⟩ := BranchId.mapM_ofRow_delivers unpacks texts
  refine ⟨ids, ?_, ?_, delivers⟩
  · apply outcome_eq_ok_iff.mpr
    refine ⟨.list items, ?_, ?_⟩
    · rw [Source.ask, Course.result_bind, Connection.fetch_of_yields yields]
      rfl
    · apply BranchId.ofRows_eq_ok_iff.mpr
      exact ⟨⟨items, none⟩, rfl, rfl, read⟩
  · rw [← delivers.length_eq, unpacks.length_eq]

theorem recover_delivers_mixed :
    let branch : Row := ⟨.text "1_Zw==_Yg==", .list [.int 1], .null, .text "db"⟩
    let byHand : Row := ⟨.text "by-hand", .null, .dict [], .text "db"⟩
    let items : List Value := [
      .tuple [branch.gid, branch.prepared, branch.owner, branch.database],
      .feed 1 "Row" "<row>" [byHand.gid, byHand.prepared, byHand.owner, byHand.database] none]
    let connection : Connection := ⟨.feed 0 "Rows" "<rows>" items none, none, none, none, none⟩
    connection.Yields items ∧
      ∃ first second, (recover (.database connection) "SELECT").outcome = .ok [first, second] ∧
        first.text = .ok (.text "1_Zw==_Yg==") ∧ first.prepared = .list [.int 1] ∧
        second.text = .ok (.text "by-hand") ∧ second.owner = .dict [] := by
  intro branch byHand items connection
  have yields : connection.Yields items := ⟨rfl, rfl, rfl, rfl, rfl⟩
  have unpacks : List.Forall₂ Row.Unpacks items [branch, byHand] := .cons rfl (.cons rfl .nil)
  have texts : ∀ row ∈ [branch, byHand], row.gid.isText = true := by
    intro row member
    rcases List.mem_cons.mp member with rfl | member
    · rfl
    · cases List.mem_singleton.mp member
      rfl
  obtain ⟨ids, delivered, _, delivers⟩ := recover_delivers "SELECT" yields unpacks texts
  cases delivers with
  | cons firstDelivers rest =>
      cases rest with
      | cons secondDelivers rest =>
          cases rest
          exact ⟨yields, _, _, delivered, firstDelivers.text, firstDelivers.prepared,
            secondDelivers.text, secondDelivers.owner⟩

end Trip

end InDoubt
