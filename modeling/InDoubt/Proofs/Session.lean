import Mathlib.Data.List.Induction
import InDoubt.Proofs.Branch.Obtained
import InDoubt.Proofs.Branch.RoundTrip
import InDoubt.Session

/-!
What is true of all identifiers of a session, whatever is requested in it: each holds a triple that
would be accepted again, or a text that is the flat text of none; only those from a store know
anything else; and none is ever changed.
-/

namespace InDoubt

open Outcome

namespace BranchId

/-- The triple of the identifier would be accepted again, and as the same branch. -/
def HoldsTriple (id : BranchId) : Prop :=
  id.isUnparsed = false ∧ Admissible id.formatId id.gtrid id.bqual ∧
    ∃ again, ofValues id.formatId id.gtrid id.bqual = .ok again ∧ (again == id) = true

/-- The identifier holds a text that is the flat text of no triple, so that no accepted one is
written as it in digits. -/
def HoldsText (id : BranchId) : Prop :=
  ∃ raw, id.form = .verbatim raw ∧ raw.isText = true ∧
    (∀ text, raw = .text text → ¬Flat.IsFlat text) ∧
    ∀ formatId gtrid bqual other, ofValues formatId gtrid bqual = .ok other →
      other.form.WritesDigits → other.encode ≠ .ok raw

def Blank (id : BranchId) : Prop := id.prepared = .null ∧ id.owner = .null ∧ id.database = .null

theorem holdsTriple_of_valid {triple : Triple} (valid : triple.Valid)
    (prepared owner database : Value) :
    HoldsTriple ⟨.structured triple, prepared, owner, database⟩ := by
  have accepted : ofValues (Value.formatIdValue triple.formatId) (.text triple.gtrid)
      (.text triple.bqual) = .ok (ofForm (.structured triple)) :=
    ofValues_eq_ok_iff.mpr ⟨triple, valid, rfl, rfl, rfl, rfl⟩
  have canonical : (Form.structured triple).Canonical := valid
  refine ⟨rfl, accepted_iff_admissible.mp ⟨_, accepted⟩, _, accepted, ?_⟩
  exact (Form.same_iff_flat_eq canonical canonical).mpr rfl

theorem encode_ne_of_not_flat {raw : Value} (notFlat : ∀ text, raw = .text text → ¬Flat.IsFlat text)
    {formatId gtrid bqual : Value} {other : BranchId}
    (accepted : ofValues formatId gtrid bqual = .ok other) (digits : other.form.WritesDigits) :
    other.encode ≠ .ok raw := by
  obtain ⟨triple, valid, _, _, _, rfl⟩ := ofValues_eq_ok_iff.mp accepted
  have canonical : (Form.structured triple).Canonical := valid
  have written : (ofForm (.structured triple)).encode = .ok (.text (Flat.write triple)) :=
    (Form.encode_eq_flat_iff canonical).mpr digits
  rw [written]
  intro same
  exact notFlat _ (Except.ok.inj same).symm ⟨triple, valid, rfl⟩

theorem holds_of_canonical {id : BranchId} (canonical : id.form.Canonical) :
    id.HoldsTriple ∨ id.HoldsText := by
  obtain ⟨form, prepared, owner, database⟩ := id
  cases form with
  | structured triple => exact .inl (holdsTriple_of_valid canonical prepared owner database)
  | verbatim raw =>
      refine .inr ⟨raw, rfl, canonical.1, canonical.2, ?_⟩
      intro formatId gtrid bqual other accepted
      exact encode_ne_of_not_flat canonical.2 accepted

theorem blank_of_ofValues {formatId gtrid bqual : Value} {id : BranchId}
    (accepted : ofValues formatId gtrid bqual = .ok id) : id.Blank := by
  obtain ⟨triple, _, _, _, _, rfl⟩ := ofValues_eq_ok_iff.mp accepted
  exact ⟨rfl, rfl, rfl⟩

theorem blank_of_decode {given : Value} {id : BranchId} (read : decode given = .ok id) :
    id.Blank := by
  obtain ⟨form, _, rfl⟩ := decode_eq_ok_iff.mp read
  exact ⟨rfl, rfl, rfl⟩

end BranchId

def Holder.fieldNames (id : BranchId) : Holder → List String
  | .identifier => ["form", "prepared", "owner", "database"]
  | .form => if id.isUnparsed then ["raw"] else ["format_id", "gtrid", "bqual"]

def Attempt.refusal (fieldNames : List String) (name : String) (attempt : Attempt) : Fault :=
  if name ∈ fieldNames then
    match attempt with
    | .assign _ => .plain .frozen ("cannot assign to field '" ++ name ++ "'")
    | .delete => .plain .frozen ("cannot delete field '" ++ name ++ "'")
  else .plain .wrongType "super(type, obj): obj must be an instance or subtype of type"

theorem Attempt.refusal_assign (fieldNames : List String) (name : String) (value : Value) :
    Frozen.refusal fieldNames "assign to" name = refusal fieldNames name (.assign value) := rfl

theorem Attempt.refusal_delete (fieldNames : List String) (name : String) :
    Frozen.refusal fieldNames "delete" name = refusal fieldNames name .delete := rfl

theorem Holder.fieldNames_form (id : BranchId) :
    Holder.form.fieldNames id = id.form.fieldNames := by
  obtain ⟨form, prepared, owner, database⟩ := id
  cases form with
  | structured triple => rfl
  | verbatim raw => rfl

theorem Attempt.outcome_refused (attempt : Attempt) (id : BranchId) (holder : Holder)
    (name : String) :
    attempt.outcome id holder name = .error (attempt.refusal (holder.fieldNames id) name) := by
  cases holder with
  | identifier =>
      cases attempt with
      | assign value => exact congrArg Except.error (refusal_assign _ name value)
      | delete => exact congrArg Except.error (refusal_delete _ name)
  | form =>
      rw [Holder.fieldNames_form]
      cases attempt with
      | assign value => exact congrArg Except.error (refusal_assign _ name value)
      | delete => exact congrArg Except.error (refusal_delete _ name)

namespace Session

variable {held : List BranchId} {request : Request} {reply : Reply}

theorem find_eq_ok_iff {position : Nat} {id : BranchId} :
    find held position = .ok id ↔ held[position]? = some id := by
  unfold find
  cases held[position]? with
  | none => simp
  | some found => simp

structure Adds (request : Request) (id : BranchId) : Prop where
  canonical : id.form.Canonical
  origin : id.Blank ∨ ∃ rows, request = .recover rows

def Extends (held : List BranchId) (request : Request) (reply : Reply) : Prop :=
  ∃ added, reply.held = held ++ added ∧ (∀ id ∈ added, Adds request id) ∧
    ∀ id ∈ reply.answer, id ∈ reply.held

theorem extends_one {made : Except Fault BranchId}
    (accepted : (made >>= fun id => pure (add held [id])) = .ok reply)
    (canonical : ∀ id, made = .ok id → id.form.Canonical)
    (blank : ∀ id, made = .ok id → id.Blank) : Extends held request reply := by
  obtain ⟨id, succeeded, replied⟩ := bind_eq_ok_iff.mp accepted
  cases replied
  refine ⟨[id], rfl, ?_, fun _ => List.mem_append_right held⟩
  intro other member
  cases List.mem_singleton.mp member
  exact ⟨canonical id succeeded, .inl (blank id succeeded)⟩

theorem ensure_sound {given : Value} (sound : given.Sound) {id : BranchId}
    (accepted : BranchId.ensure (.value given) = .ok id) : id.form.Canonical ∧ id.Blank := by
  rcases ensure_cases accepted with known | ⟨text, read⟩
  · cases given with
    | branch triple =>
        cases known
        exact ⟨sound, rfl, rfl, rfl⟩
    | _ => cases known
  · exact ⟨canonical_of_decode read, BranchId.blank_of_decode read⟩

theorem step_extends (accepted : step held request = .ok reply) : Extends held request reply := by
  cases request with
  | make formatId gtrid bqual =>
      exact extends_one accepted (fun _ => canonical_of_ofValues)
        fun _ => BranchId.blank_of_ofValues
  | decode given =>
      exact extends_one accepted (fun _ => canonical_of_decode) fun _ => BranchId.blank_of_decode
  | ofString given =>
      exact extends_one accepted (fun _ => canonical_of_decode) fun _ => BranchId.blank_of_decode
  | ensureHeld position =>
      obtain ⟨id, found, accepted⟩ := bind_eq_ok_iff.mp accepted
      cases accepted
      refine ⟨[], (List.append_nil held).symm, List.forall_mem_nil _, ?_⟩
      intro other member
      cases List.mem_singleton.mp member
      exact List.mem_of_getElem? (find_eq_ok_iff.mp found)
  | ensure given sound =>
      exact extends_one accepted (fun _ made => (ensure_sound sound made).1)
        fun _ made => (ensure_sound sound made).2
  | recover rows =>
      obtain ⟨ids, read, replied⟩ := bind_eq_ok_iff.mp accepted
      cases replied
      refine ⟨ids, rfl, ?_, fun _ => List.mem_append_right held⟩
      intro id member
      exact ⟨canonical_of_ofRows read member, .inr ⟨rows, rfl⟩⟩
  | change position holder fieldName attempt =>
      obtain ⟨id, _, accepted⟩ := bind_eq_ok_iff.mp accepted
      obtain ⟨changed, allowed, _⟩ := bind_eq_ok_iff.mp accepted
      cases allowed.symm.trans (attempt.outcome_refused id holder fieldName)

theorem change_refused {position : Nat} {id : BranchId} (found : held[position]? = some id)
    (holder : Holder) (fieldName : String) (attempt : Attempt) :
    step held (.change position holder fieldName attempt) =
      .error (attempt.refusal (holder.fieldNames id) fieldName) := by
  change (find held position >>= fun id => _) = _
  rw [find_eq_ok_iff.mpr found]
  change (attempt.outcome id holder fieldName >>= fun changed => _) = _
  rw [attempt.outcome_refused]
  rfl

theorem exists_after (held : List BranchId) (request : Request) :
    ∃ added, after held request = held ++ added ∧ ∀ id ∈ added, Adds request id := by
  unfold after
  cases stepped : step held request with
  | error fault => exact ⟨[], (List.append_nil held).symm, List.forall_mem_nil _⟩
  | ok reply =>
      obtain ⟨added, grown, adds, _⟩ := step_extends stepped
      exact ⟨added, grown, adds⟩

theorem run_append (held : List BranchId) (first later : List Request) :
    run held (first ++ later) = run (run held first) later := List.foldl_append

theorem run_singleton (held : List BranchId) (request : Request) :
    run held [request] = after held request := rfl

theorem prefix_run (held : List BranchId) (requests : List Request) :
    held <+: run held requests := by
  induction requests generalizing held with
  | nil => exact List.prefix_rfl
  | cons request rest restGrows =>
      obtain ⟨added, grown, _⟩ := exists_after held request
      have first : held <+: after held request := ⟨added, grown.symm⟩
      exact first.trans (restGrows (after held request))

/-- The request of a session that added the identifier at a position. -/
def AddedBy (requests : List Request) (position : Nat) (request : Request) : Prop :=
  ∃ before later, requests = before ++ request :: later ∧
    (run [] before).length ≤ position ∧ position < (run [] (before ++ [request])).length

theorem AddedBy.append {requests : List Request} {position : Nat}
    (added : AddedBy requests position request) (later : List Request) :
    AddedBy (requests ++ later) position request := by
  obtain ⟨before, rest, parts, reached, passed⟩ := added
  refine ⟨before, rest ++ later, ?_, reached, passed⟩
  rw [parts, List.append_assoc, List.cons_append]

theorem exists_addedBy (requests : List Request) {position : Nat} {id : BranchId}
    (found : (run [] requests)[position]? = some id) :
    ∃ request, AddedBy requests position request ∧ Adds request id := by
  -- From the last request: it has added the identifier, or those before it have.
  induction requests using List.reverseRecOn with
  | nil => cases found
  | append_singleton before request beforeAdded =>
      obtain ⟨added, grown, adds⟩ := exists_after (run [] before) request
      have held : run [] (before ++ [request]) = run [] before ++ added := by
        rw [run_append, run_singleton, grown]
      rw [held] at found
      by_cases earlier : position < (run [] before).length
      · rw [List.getElem?_append_left earlier] at found
        obtain ⟨source, addedBy, addsId⟩ := beforeAdded found
        exact ⟨source, addedBy.append [request], addsId⟩
      · have reached := Nat.not_lt.mp earlier
        have passed : position < (run [] (before ++ [request])).length := by
          rw [held]
          exact (List.getElem?_eq_some_iff.mp found).1
        rw [List.getElem?_append_right reached] at found
        exact ⟨request, ⟨before, [], rfl, reached, passed⟩, adds id (List.mem_of_getElem? found)⟩

theorem held_identifiers_sound (requests : List Request) :
    (∀ id ∈ run [] requests, id.HoldsTriple ∨ id.HoldsText) ∧
    (∀ (position : Nat) id, (run [] requests)[position]? = some id →
      id.Blank ∨ ∃ rows, AddedBy requests position (.recover rows)) ∧
    (∀ later (position : Nat) id, (run [] requests)[position]? = some id →
      (run [] (requests ++ later))[position]? = some id) ∧
    (∀ request reply, step (run [] requests) request = .ok reply →
      ∀ id ∈ reply.answer, id ∈ run [] (requests ++ [request])) ∧
    ∀ (position : Nat) id holder fieldName attempt, (run [] requests)[position]? = some id →
      step (run [] requests) (.change position holder fieldName attempt) =
        .error (attempt.refusal (holder.fieldNames id) fieldName) := by
  refine ⟨?_, ?_, ?_, ?_, ?_⟩
  · intro id member
    obtain ⟨position, found⟩ := List.mem_iff_getElem?.mp member
    obtain ⟨request, _, adds⟩ := exists_addedBy requests found
    exact BranchId.holds_of_canonical adds.canonical
  · intro position id found
    obtain ⟨request, addedBy, adds⟩ := exists_addedBy requests found
    rcases adds.origin with blank | ⟨rows, rfl⟩
    · exact .inl blank
    · exact .inr ⟨rows, addedBy⟩
  · intro later position id found
    obtain ⟨added, grown⟩ := prefix_run (run [] requests) later
    rw [run_append, ← grown, List.getElem?_append_left (List.getElem?_eq_some_iff.mp found).1]
    exact found
  · intro request reply accepted id member
    obtain ⟨_, _, _, answered⟩ := step_extends accepted
    rw [run_append, run_singleton, after, accepted]
    exact answered id member
  · intro position id holder fieldName attempt found
    exact change_refused found holder fieldName attempt

theorem made_and_recovered_stay :
    let look : Look := .ofMember "Format" "PGJDBC" 7
    let made : BranchId := .ofForm (.structured ⟨⟨7, some look⟩, "g", ""⟩)
    let recovered : BranchId := ⟨.verbatim (.text "by-hand"), .text "now", .null, .null⟩
    let rows : Value := .list [.tuple [.text "by-hand", .text "now", .null, .null]]
    let requests : List Request := [.make (.derived 7 look) (.text "g") (.text ""), .recover rows,
      .change 1 .identifier "prepared" .delete]
    run [] requests = [made, recovered] ∧ (made.HoldsTriple ∨ made.HoldsText) ∧
      (∃ rows, AddedBy requests 1 (.recover rows)) ∧
      (∀ later, (run [] (requests ++ later))[1]? = some recovered) ∧
      step (run [] requests) (.change 0 .form "gtrid" (.assign .null)) =
        .error (.plain .frozen "cannot assign to field 'gtrid'") ∧
      step (run [] requests) (.change 0 .identifier "gtrid" (.assign .null)) =
        .error
          (.plain .wrongType "super(type, obj): obj must be an instance or subtype of type") := by
  intro look made recovered rows requests
  have held : run [] requests = [made, recovered] := by rfl
  have madeHeld : (run [] requests)[0]? = some made := by rw [held]; rfl
  have recoveredHeld : (run [] requests)[1]? = some recovered := by rw [held]; rfl
  obtain ⟨sound, origin, kept, _, refused⟩ := held_identifiers_sound requests
  refine ⟨held, sound made (List.mem_of_getElem? madeHeld), ?_, ?_, ?_, ?_⟩
  · rcases origin 1 recovered recoveredHeld with blank | addedBy
    · cases blank.1
    · exact addedBy
  · intro later
    exact kept later 1 recovered recoveredHeld
  · exact refused 0 made .form "gtrid" (.assign .null) madeHeld
  · exact refused 0 made .identifier "gtrid" (.assign .null) madeHeld

end Session

end InDoubt
