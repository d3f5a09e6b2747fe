import InDoubt.Proofs.Recovery.Delivery
import InDoubt.Proofs.Recovery.Records

namespace InDoubt

open Outcome

/-- Identifiers that differ at most in what recovery knows about the branch. -/
structure BranchId.Alike (first second : BranchId) : Prop where
  form : first.form = second.form
  equal : (first == second) = true
  hash : ∃ code, first.hash = .ok code ∧ second.hash = .ok code
  text : ∃ text, first.text = .ok text ∧ second.text = .ok text
  triple : first.items = second.items
  unparsed : first.isUnparsed = second.isUnparsed

theorem BranchId.alike_of_form_eq {first second : BranchId} (canonical : first.form.Canonical)
    (digits : first.form.WritesDigits) (same : first.form = second.form) : Alike first second := by
  obtain ⟨form, prepared, owner, database⟩ := first
  obtain ⟨form', prepared', owner', database'⟩ := second
  cases same
  obtain ⟨code, hashed⟩ := hash_of_canonical canonical
  refine ⟨rfl, ?_, ⟨code, hashed, hashed⟩, ?_, rfl, rfl⟩
  · exact (Form.same_iff_flat_eq canonical canonical).mpr rfl
  · exact ⟨_, (text_eq_flat_iff canonical).mpr digits, (text_eq_flat_iff canonical).mpr digits⟩

namespace Row

variable {first second : Row} {id id' : BranchId}

theorem Identifies.alike (identifies : first.Identifies id) (identifiesToo : second.Identifies id')
    (sameText : first.gid = second.gid) : id.Alike id' := by
  refine BranchId.alike_of_form_eq (Form.canonical_of_read identifies.read).1
    (Form.writesDigits_of_read identifies.read) ?_
  have read := identifies.read
  rw [sameText, identifiesToo.read] at read
  exact (Except.ok.inj read).symm

theorem forall₂_alike {rows rows' : List Row} {ids ids' : List BranchId}
    (identifies : List.Forall₂ Identifies rows ids)
    (identifiesToo : List.Forall₂ Identifies rows' ids')
    (sameTexts : rows.map Row.gid = rows'.map Row.gid) : List.Forall₂ BranchId.Alike ids ids' := by
  -- The second run follows the first: it has as many rows, since it has the same texts.
  induction identifies generalizing rows' ids' with
  | nil =>
      cases identifiesToo with
      | nil => exact .nil
      | cons _ _ => cases sameTexts
  | cons first _ restAlike =>
      cases identifiesToo with
      | nil => cases sameTexts
      | cons firstToo restToo =>
          obtain ⟨sameText, sameTexts⟩ := List.cons.inj sameTexts
          exact .cons (first.alike firstToo sameText) (restAlike restToo sameTexts)

end Row

theorem BranchId.map_form_eq {ids ids' : List BranchId} (alike : List.Forall₂ Alike ids ids') :
    ids.map BranchId.form = ids'.map BranchId.form := by
  induction alike with
  | nil => rfl
  | cons first _ restSame => rw [List.map_cons, List.map_cons, first.form, restSame]

theorem countUnparsed_eq_countP_form (ids : List BranchId) :
    countUnparsed ids = (ids.map BranchId.form).countP Form.isUnparsed := by
  rw [List.countP_map]
  rfl

def Source.Lists (source : Source) (statement : String) (rows : List Row) : Prop :=
  ∃ answer items, (source.ask statement).result = .ok answer ∧
    answer.contents? = some ⟨items, none⟩ ∧ List.Forall₂ Row.Unpacks items rows ∧
    ∀ row ∈ rows, row.gid.isText = true

theorem Source.Lists.identifiers {source : Source} {statement : String} {rows : List Row}
    (lists : source.Lists statement rows) :
    ∃ ids, (source.identifiers statement).result = .ok ids ∧
      List.Forall₂ Row.Identifies rows ids := by
  obtain ⟨answer, items, answered, whole, unpacks, texts⟩ := lists
  obtain ⟨ids, read, identifies⟩ := BranchId.mapM_ofRow_identifies unpacks texts
  refine ⟨ids, ?_, identifies⟩
  rw [result_identifiers, answered]
  exact BranchId.ofRows_eq_ok_iff.mpr ⟨⟨items, none⟩, whole, rfl, read⟩

namespace Trip

/-- What a successful trip leaves behind depends on its statement and on the forms of its
identifiers, and on nothing else. -/
theorem records_eq_of_forms_eq {source other : Source} {statement statement' : String}
    {ids ids' : List BranchId} (found : (source.identifiers statement).result = .ok ids)
    (foundToo : (other.identifiers statement').result = .ok ids')
    (same : ids.map BranchId.form = ids'.map BranchId.form) :
    let trip := recover source statement
    let trip' := recover other statement'
    trip.increases = trip'.increases ∧
      (statement = statement' → trip.events = trip'.events ∧ trip.spans = trip'.spans) := by
  intro trip trip'
  have unparsed : countUnparsed ids = countUnparsed ids' := by
    rw [countUnparsed_eq_countP_form, countUnparsed_eq_countP_form, same]
  have count : ids.length = ids'.length := by
    simpa using congrArg List.length same
  refine ⟨?_, ?_⟩
  · rw [increases_of_ok found, increases_of_ok foundToo, unparsed, count]
  · intro sameStatement
    refine ⟨?_, ?_⟩
    · rw [events_of_ok found, events_of_ok foundToo, unparsed, count, sameStatement]
    · rw [spans_of_ok found, spans_of_ok foundToo, unparsed, count, sameStatement]

theorem metadata_without_influence {source other : Source} {statement statement' : String}
    {rows rows' : List Row} (lists : source.Lists statement rows)
    (listsToo : other.Lists statement' rows')
    (sameTexts : rows.map Row.gid = rows'.map Row.gid) :
    let trip := recover source statement
    let trip' := recover other statement'
    (∃ ids ids', trip.outcome = .ok ids ∧ trip'.outcome = .ok ids' ∧
      List.Forall₂ BranchId.Alike ids ids' ∧ List.Forall₂ Row.Identifies rows ids ∧
      List.Forall₂ Row.Identifies rows' ids') ∧
    trip.increases = trip'.increases ∧
    (statement = statement' → trip.events = trip'.events ∧ trip.spans = trip'.spans) := by
  intro trip trip'
  obtain ⟨ids, found, identifies⟩ := lists.identifiers
  obtain ⟨ids', foundToo, identifiesToo⟩ := listsToo.identifiers
  have alike := Row.forall₂_alike identifies identifiesToo sameTexts
  refine ⟨⟨ids, ids', (of_ok found).1, (of_ok foundToo).1, alike, identifies, identifiesToo⟩, ?_⟩
  exact records_eq_of_forms_eq found foundToo (BranchId.map_form_eq alike)

theorem metadata_without_influence_opaque :
    let row : Row :=
      ⟨.text "1_Zw==_Yg==", .list [.int 1], .object 0 "Marker" "<marker>", .text "db"⟩
    let byHand : Row := ⟨.text "by-hand", .dict [], .int (10 ^ 5000), .null⟩
    let row' : Row := ⟨.text "1_Zw==_Yg==", .null, .null, .null⟩
    let byHand' : Row := ⟨.text "by-hand", .null, .null, .null⟩
    let value : Row → Value := fun row => .tuple [row.gid, row.prepared, row.owner, row.database]
    let source : Source := .database ⟨.list [value row, value byHand], none, none, none, none⟩
    let other : Source := .other (.ok (.feed 0 "Rows" "<rows>" [value row', value byHand'] none))
    source.Lists "SELECT" [row, byHand] ∧ other.Lists "SELECT" [row', byHand'] ∧
      (recover source "SELECT").events = (recover other "SELECT").events ∧
      (recover source "SELECT").spans = (recover other "SELECT").spans ∧
      (recover source "SELECT").increases = (recover other "SELECT").increases := by
  intro row byHand row' byHand' value source other
  have lists : source.Lists "SELECT" [row, byHand] := by
    refine ⟨_, [value row, value byHand], rfl, rfl, .cons rfl (.cons rfl .nil), ?_⟩
    exact List.forall_mem_cons.mpr ⟨rfl, List.forall_mem_singleton.mpr rfl⟩
  have listsToo : other.Lists "SELECT" [row', byHand'] := by
    refine ⟨_, [value row', value byHand'], rfl, rfl, .cons rfl (.cons rfl .nil), ?_⟩
    exact List.forall_mem_cons.mpr ⟨rfl, List.forall_mem_singleton.mpr rfl⟩
  obtain ⟨_, counted, recorded⟩ := metadata_without_influence lists listsToo rfl
  obtain ⟨logged, traced⟩ := recorded rfl
  exact ⟨lists, listsToo, logged, traced, counted⟩

end Trip

end InDoubt
