import InDoubt.Branch.Identifier
import InDoubt.Proofs.Flat.Exactness

namespace InDoubt

namespace Value

theorem same_iff_of_isText {first second : Value} (firstText : first.isText = true)
    (secondText : second.isText = true) : first.same second = true ↔ first = second := by
  cases first with
  | text given =>
      cases second with
      | text given' => simp [same]
      | brokenText codes' broken' => simp [same, number?]
      | _ => simp [isText, codes?] at secondText
  | brokenText codes broken =>
      cases second with
      | text given' => simp [same, number?]
      | brokenText codes' broken' => simp [same]
      | _ => simp [isText, codes?] at secondText
  | _ => simp [isText, codes?] at firstText

end Value

namespace Triple

theorem same_iff_plain_eq {first second : Triple} :
    first.same second = true ↔ first.plain = second.plain := by
  simp [same, plain, and_assoc]

end Triple

namespace Form

/-- A canonical form holds a valid triple, or a text that is the flat text of none. -/
def Canonical : Form → Prop
  | .structured triple => triple.Valid
  | .verbatim raw => raw.isText = true ∧ ∀ text, raw = .text text → ¬Flat.IsFlat text

theorem ofText_eq_ok {text : String} {form : Form} (read : ofText text = .ok form) :
    (∃ triple, form = .structured triple ∧ triple.Valid ∧ triple.formatId.look = none ∧
        Flat.write triple = text) ∨
      form = .verbatim (.text text) ∧ ¬Flat.IsFlat text := by
  unfold ofText at read
  obtain ⟨found, parsed⟩ := Flat.parse_total text
  cases found with
  | some triple =>
      simp only [parsed, Except.ok.injEq] at read
      exact .inl ⟨triple, read.symm, Flat.parse_eq_some_iff.mp parsed⟩
  | none =>
      simp only [parsed, Except.ok.injEq] at read
      exact .inr ⟨read.symm, Flat.parse_eq_none_iff.mp parsed⟩

theorem read_total {given : Value} (isText : given.isText = true) :
    ∃ form, read given = .ok form := by
  cases given with
  | text text =>
      obtain ⟨found, parsed⟩ := Flat.parse_total text
      cases found with
      | some triple => exact ⟨.structured triple, by simp only [read, ofText, parsed]⟩
      | none => exact ⟨.verbatim (.text text), by simp only [read, ofText, parsed]⟩
  | brokenText codes broken => exact ⟨.verbatim (.brokenText codes broken), rfl⟩
  | _ => simp [Value.isText, Value.codes?] at isText

theorem isText_of_read {given : Value} {form : Form} (found : read given = .ok form) :
    given.isText = true := by
  cases given with
  | text text => rfl
  | brokenText codes broken => rfl
  | _ => simp [read] at found

theorem read_write {triple : Triple} (valid : triple.Valid) :
    read (.text (Flat.write triple)) = .ok (.structured triple.plain) := by
  simp only [read, ofText, Flat.parse_write valid]

theorem canonical_of_read {given : Value} {form : Form} (found : read given = .ok form) :
    form.Canonical ∧ form.flat = given := by
  cases given with
  | text text =>
      rcases ofText_eq_ok found with ⟨triple, rfl, valid, _, written⟩ | ⟨rfl, notFlat⟩
      · exact ⟨valid, congrArg Value.text written⟩
      · refine ⟨⟨rfl, ?_⟩, rfl⟩
        intro given same
        cases same
        exact notFlat
  | brokenText codes broken =>
      cases found
      refine ⟨⟨rfl, ?_⟩, rfl⟩
      intro text impossible
      cases impossible
  | _ => simp [read] at found

theorem isText_flat {form : Form} (canonical : form.Canonical) : form.flat.isText = true := by
  cases form with
  | structured triple => rfl
  | verbatim raw => exact canonical.1

def WritesDigits : Form → Prop
  | .structured triple => triple.formatId.WritesDigits
  | .verbatim _ => True

theorem encode_structured_eq_ok_iff {triple : Triple} {text : String} :
    encode (.structured triple) = .ok (.text text) ↔ Flat.encode triple = .ok text := by
  unfold encode
  cases written : Flat.encode triple with
  | ok written => simp [written]
  | error refusal => simp [written]

theorem encode_eq_flat_iff {form : Form} (canonical : form.Canonical) :
    form.encode = .ok form.flat ↔ form.WritesDigits := by
  cases form with
  | structured triple =>
      have valid : triple.Valid := canonical
      rw [WritesDigits, ← Flat.encode_eq_write_iff valid, flat, encode_structured_eq_ok_iff]
  | verbatim raw => exact ⟨fun _ => trivial, fun _ => rfl⟩

theorem writesDigits_of_read {given : Value} {form : Form} (found : read given = .ok form) :
    form.WritesDigits := by
  cases given with
  | text text =>
      rcases ofText_eq_ok found with ⟨triple, rfl, _, plain, _⟩ | ⟨rfl, _⟩
      · rw [WritesDigits, FormatId.WritesDigits, FormatId.decimal, plain]
      · trivial
  | brokenText codes broken =>
      cases found
      trivial
  | _ => simp [read] at found

theorem encode_of_read {given : Value} {form : Form} (found : read given = .ok form) :
    form.encode = .ok given := by
  obtain ⟨canonical, unchanged⟩ := canonical_of_read found
  rw [← unchanged]
  exact (encode_eq_flat_iff canonical).mpr (writesDigits_of_read found)

/-- Writing tells canonical forms apart: a triple from another triple, and a text held verbatim from
all of them. -/
theorem same_iff_flat_eq {first second : Form} (firstCanonical : first.Canonical)
    (secondCanonical : second.Canonical) :
    first.same second = true ↔ first.flat = second.flat := by
  cases first with
  | structured triple =>
      cases second with
      | structured triple' =>
          rw [same, Triple.same_iff_plain_eq, flat, flat, Value.text.injEq]
          constructor
          · intro plainSame
            rw [← Flat.write_plain triple, plainSame, Flat.write_plain]
          · exact Flat.plain_eq_of_write_eq firstCanonical secondCanonical
      | verbatim raw =>
          simp only [same, flat, Bool.false_eq_true, false_iff]
          intro written
          exact secondCanonical.2 _ written.symm ⟨triple, firstCanonical, rfl⟩
  | verbatim raw =>
      cases second with
      | structured triple =>
          simp only [same, flat, Bool.false_eq_true, false_iff]
          intro written
          exact firstCanonical.2 _ written ⟨triple, secondCanonical, rfl⟩
      | verbatim raw' => exact Value.same_iff_of_isText firstCanonical.1 secondCanonical.1

end Form

namespace BranchId

theorem ofValues_eq_ok_iff {formatId gtrid bqual : Value} {id : BranchId} :
    ofValues formatId gtrid bqual = .ok id ↔
      ∃ triple : Triple, triple.Valid ∧ formatId = Value.formatIdValue triple.formatId ∧
        gtrid = .text triple.gtrid ∧ bqual = .text triple.bqual ∧
        id = ofForm (.structured triple) := by
  unfold ofValues
  constructor
  · intro accepted
    split at accepted
    · next triple made =>
      cases accepted
      obtain ⟨valid, formatSame, gtridSame, bqualSame⟩ := Triple.ofValues_eq_ok_iff.mp made
      exact ⟨triple, valid, formatSame, gtridSame, bqualSame, rfl⟩
    · simp at accepted
  · intro conditions
    obtain ⟨triple, valid, formatSame, gtridSame, bqualSame, rfl⟩ := conditions
    rw [Triple.ofValues_eq_ok_iff.mpr ⟨valid, formatSame, gtridSame, bqualSame⟩]

theorem decode_eq_ok_iff {given : Value} {id : BranchId} :
    decode given = .ok id ↔ ∃ form, Form.read given = .ok form ∧ ofForm form = id :=
  Outcome.map_eq_ok_iff

end BranchId

/-- A number as it mostly comes: plain, or the member of an enumeration of integers. -/
inductive Value.Usual : Value → Prop
  | plain (number : Int) : Usual (.int number)
  | member (className memberName : String) (number : Int) :
      Usual (.derived number (.ofMember className memberName number))

theorem BranchId.writesDigits_of_usual {id : BranchId} (usual : id.formatId.Usual) :
    id.form.WritesDigits := by
  obtain ⟨form, prepared, owner, database⟩ := id
  cases form with
  | verbatim raw => trivial
  | structured triple =>
      obtain ⟨⟨number, look⟩, gtrid, bqual⟩ := triple
      cases look with
      | none => rfl
      | some look =>
          have usual : (Value.derived number look).Usual := usual
          cases usual with
          | member className memberName number =>
              exact FormatId.writesDigits_ofMember className memberName _

theorem BranchId.writesDigits_of_isUnparsed {id : BranchId} (unparsed : id.isUnparsed = true) :
    id.form.WritesDigits := by
  obtain ⟨form, prepared, owner, database⟩ := id
  cases form with
  | verbatim raw => trivial
  | structured triple => cases unparsed

end InDoubt
