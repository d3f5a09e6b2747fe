import InDoubt.Proofs.Branch.RoundTrip
import InDoubt.Proofs.Value.Printed

namespace InDoubt

open Outcome

def Value.whole? : Value → Option Int
  | .int number => some number
  | .derived number _ => some number
  | _ => none

namespace Triple

structure Offer where
  formatId : Value
  gtrid : Value
  bqual : Value

def Offer.part (offer : Offer) : Part → Value
  | .gtrid => offer.gtrid
  | .bqual => offer.bqual

/-- A whole number that is offered has a text, should one be needed: a plain one is within the limit
on digits, to another one its class gives it. -/
def Offer.Printable (offer : Offer) : Prop :=
  match offer.formatId with
  | .int number => number.natAbs < 10 ^ maxPrintedDigits
  | .derived _ look => ∃ text, look.inserted? = some text
  | _ => True

inductive Check where
  | formatType
  | formatRange
  | partType (part : Part)
  | partLength (part : Part)
  | partCharacters (part : Part)

namespace Check

def ofFormat : List Check := [.formatType, .formatRange]

def ofPart (part : Part) : List Check := [.partType part, .partLength part, .partCharacters part]

def inOrder : List Check := ofFormat ++ (ofPart .gtrid ++ ofPart .bqual)

def isOfType : Check → Bool
  | .formatType | .partType _ => true
  | .formatRange | .partLength _ | .partCharacters _ => false

end Check

/-- What fails a check by itself, and the fault that says so. -/
inductive Offer.Fails (offer : Offer) : Check → Fault → Prop
  | formatType (noNumber : offer.formatId.whole? = none) :
      Fails offer .formatType
        (.plain .wrongType ("format_id must be an integer, got " ++ offer.formatId.typeName))
  | formatRange {number : Int} {text : String} (given : offer.formatId.whole? = some number)
      (outside : number < 0 ∨ 0x7fffffff < number)
      (printed : offer.formatId.inserted? = some text) :
      Fails offer .formatRange
        (.plain .invalid
          ("format_id out of range: must be a non-negative 32-bit integer, got " ++ text))
  | partType {part : Part} (noText : (offer.part part).codes? = none) :
      Fails offer (.partType part)
        (.plain .wrongType
          (part.label ++ " must be a string, got " ++ (offer.part part).typeName))
  | partLength {part : Part} {codes : List Nat} (given : (offer.part part).codes? = some codes)
      (long : 64 < codes.length) :
      Fails offer (.partLength part)
        (.plain .invalid
          (part.label ++ " too long: at most 64 characters allowed, got " ++
            Nat.repr codes.length))
  | partCharacters {part : Part} {before after : List Nat} {code : Nat}
      (given : (offer.part part).codes? = some (before ++ code :: after))
      (shown : ∀ earlier ∈ before, 0x20 ≤ earlier ∧ earlier ≤ 0x7e)
      (hidden : ¬(0x20 ≤ code ∧ code ≤ 0x7e)) :
      Fails offer (.partCharacters part)
        (.plain .invalid
          (part.label ++ " not printable: character " ++ hexadecimal code ++
            " is outside 0x20-0x7e"))

namespace Offer

variable {offer : Offer} {fault : Fault}

theorem Fails.kind {check : Check} (fails : offer.Fails check fault) :
    fault.kind = if check.isOfType then .wrongType else .invalid := by
  cases fails with
  | formatType _ => rfl
  | formatRange _ _ _ => rfl
  | partType _ => rfl
  | partLength _ _ => rfl
  | partCharacters _ _ _ => rfl

theorem admitsCode_iff {code : Nat} : Part.admitsCode code = true ↔ 0x20 ≤ code ∧ code ≤ 0x7e := by
  simp [Part.admitsCode]

theorem find?_eq_some_iff_first {codes : List Nat} {code : Nat} :
    codes.find? (fun code => !Part.admitsCode code) = some code ↔
      ∃ before after, codes = before ++ code :: after ∧
        (∀ earlier ∈ before, 0x20 ≤ earlier ∧ earlier ≤ 0x7e) ∧ ¬(0x20 ≤ code ∧ code ≤ 0x7e) := by
  rw [List.find?_eq_some_iff_append]
  simp only [Bool.not_not, Bool.not_eq_true', ← Bool.not_eq_true, admitsCode_iff]
  constructor
  · intro found
    obtain ⟨hidden, before, after, parts, shown⟩ := found
    exact ⟨before, after, parts, shown, hidden⟩
  · intro first
    obtain ⟨before, after, parts, shown, hidden⟩ := first
    exact ⟨hidden, before, after, parts, shown⟩

theorem Fails.unique (check : Check) (fault other : Fault) (fails : offer.Fails check fault)
    (failsToo : offer.Fails check other) : fault = other := by
  cases fails with
  | formatType _ =>
      cases failsToo
      rfl
  | formatRange _ _ printed =>
      cases failsToo with
      | formatRange _ _ printed' =>
          cases printed.symm.trans printed'
          rfl
  | partType _ =>
      cases failsToo
      rfl
  | partLength given _ =>
      cases failsToo with
      | partLength given' _ =>
          cases given.symm.trans given'
          rfl
  | @partCharacters _ before after _ given shown hidden =>
      cases failsToo with
      | @partCharacters _ before' after' _ given' shown' hidden' =>
          have found := find?_eq_some_iff_first.mpr ⟨before, after, rfl, shown, hidden⟩
          have found' := find?_eq_some_iff_first.mpr ⟨before', after', rfl, shown', hidden'⟩
          rw [← Option.some.inj (given.symm.trans given'), found] at found'
          cases found'
          rfl

theorem checkFormatId_cases (given : Value) :
    (∃ number look, given.whole? = some number ∧
      checkFormatId given = checkRange given number look) ∨
    given.whole? = none ∧ checkFormatId given = .error (.formatType given) := by
  cases given with
  | int number => exact .inl ⟨number, none, rfl, rfl⟩
  | derived number look => exact .inl ⟨number, some look, rfl, rfl⟩
  | _ => exact .inr ⟨rfl, rfl⟩

theorem Printable.inserted? {number : Int} (printable : offer.Printable)
    (whole : offer.formatId.whole? = some number) :
    ∃ text, offer.formatId.inserted? = some text := by
  obtain ⟨formatId, gtrid, bqual⟩ := offer
  cases formatId with
  | int number =>
      exact ⟨_, (Value.inserted?_int number).trans (printedInt?_of_short printable)⟩
  | derived number look => exact printable
  | _ => cases whole

theorem passes_of_checkFormatId {formatId : FormatId}
    (accepted : checkFormatId offer.formatId = .ok formatId) :
    ∀ check ∈ Check.ofFormat, ∀ other, ¬offer.Fails check other := by
  obtain ⟨small, given⟩ := checkFormatId_eq_ok_iff.mp accepted
  have whole : offer.formatId.whole? = some (formatId.number : Int) := by
    rcases Value.formatIdValue_cases formatId with plain | ⟨look, derived⟩
    · rw [given, plain]
      rfl
    · rw [given, derived]
      rfl
  intro check member other fails
  simp only [Check.ofFormat, List.mem_cons, List.not_mem_nil, or_false] at member
  rcases member with rfl | rfl
  · cases fails with
    | formatType noNumber => cases whole.symm.trans noNumber
  · cases fails with
    | formatRange given' outside _ =>
        cases whole.symm.trans given'
        unfold maxFormatId at small
        omega

theorem firstFailure_of_checkFormatId {refusal : Refusal} (printable : offer.Printable)
    (refused : checkFormatId offer.formatId = .error refusal) :
    FirstFailure offer.Fails Check.ofFormat refusal.fault := by
  rcases checkFormatId_cases offer.formatId with
    ⟨number, look, whole, checked⟩ | ⟨noNumber, checked⟩
  · obtain ⟨text, printed⟩ := printable.inserted? whole
    rw [checked, checkRange] at refused
    split at refused
    · cases refused
    · next outside =>
      cases refused
      rw [Refusal.fault, printed, rangeFault]
      refine firstFailure_cons.mpr (.inr ⟨?_, firstFailure_cons.mpr (.inl ?_)⟩)
      · intro other fails
        cases fails with
        | formatType noNumber => simp [whole] at noNumber
      · refine .formatRange whole ?_ printed
        unfold maxFormatId at outside
        omega
  · cases checked.symm.trans refused
    exact firstFailure_cons.mpr (.inl (.formatType noNumber))

theorem checkFormatId_refused_iff (printable : offer.Printable) :
    (∃ refusal, checkFormatId offer.formatId = .error refusal ∧ refusal.fault = fault) ↔
      FirstFailure offer.Fails Check.ofFormat fault :=
  refused_iff_firstFailure Fails.unique (fun _ => passes_of_checkFormatId)
    fun _ => firstFailure_of_checkFormatId printable

theorem checkFormatId_accepts (printable : offer.Printable)
    (passes : ∀ check ∈ Check.ofFormat, ∀ other, ¬offer.Fails check other) :
    ∃ formatId, checkFormatId offer.formatId = .ok formatId := by
  cases reached : checkFormatId offer.formatId with
  | ok formatId => exact ⟨formatId, rfl⟩
  | error refusal =>
      have first := firstFailure_of_checkFormatId printable reached
      exact absurd first (not_firstFailure_iff.mpr passes refusal.fault)

theorem passes_of_checkPart (part : Part) {text : String}
    (accepted : checkPart part (offer.part part) = .ok text) :
    ∀ check ∈ Check.ofPart part, ∀ other, ¬offer.Fails check other := by
  obtain ⟨given, short, admitted⟩ := checkPart_eq_ok_iff.mp accepted
  have codes : (offer.part part).codes? = some (text.toList.map Char.toNat) := by
    rw [given]
    rfl
  intro check member other fails
  simp only [Check.ofPart, List.mem_cons, List.not_mem_nil, or_false] at member
  rcases member with rfl | rfl | rfl
  · cases fails with
    | partType noText => cases codes.symm.trans noText
  · cases fails with
    | partLength given' long =>
        cases codes.symm.trans given'
        rw [List.length_map] at long
        exact Nat.not_lt.mpr short long
  · cases fails with
    | @partCharacters _ before after code given' shown hidden =>
        have member : code ∈ text.toList.map Char.toNat := by
          rw [Option.some.inj (codes.symm.trans given')]
          exact List.mem_append_right before List.mem_cons_self
        obtain ⟨character, characterMember, rfl⟩ := List.mem_map.mp member
        have shown := List.all_eq_true.mp admitted character characterMember
        simp only [Part.admits, Bool.and_eq_true, decide_eq_true_eq] at shown
        exact hidden shown

theorem fault_partLength (part : Part) (length : Nat) :
    (Refusal.partLength part length).fault =
      .plain .invalid
        (part.label ++ " too long: at most 64 characters allowed, got " ++ Nat.repr length) := by
  have limit : " too long: at most " ++ (Nat.repr Part.maxLength ++ " characters allowed, got ") =
      " too long: at most 64 characters allowed, got " := by decide
  simp only [Refusal.fault, ← limit, String.append_assoc]

theorem firstFailure_of_checkPart (part : Part) {refusal : Refusal}
    (refused : checkPart part (offer.part part) = .error refusal) :
    FirstFailure offer.Fails (Check.ofPart part) refusal.fault := by
  unfold checkPart at refused
  split at refused
  · next codes given =>
    have typed : ∀ other, ¬offer.Fails (.partType part) other := by
      intro other fails
      cases fails with
      | partType noText => simp [given] at noText
    refine firstFailure_cons.mpr (.inr ⟨typed, ?_⟩)
    have refused := map_eq_error_iff.mp refused
    unfold checkCodes at refused
    split at refused
    · next long =>
      cases refused
      rw [fault_partLength]
      exact firstFailure_cons.mpr (.inl (.partLength given long))
    · next short =>
      have short : ∀ other, ¬offer.Fails (.partLength part) other := by
        intro other fails
        cases fails with
        | partLength given' long =>
            cases given.symm.trans given'
            exact short long
      refine firstFailure_cons.mpr (.inr ⟨short, ?_⟩)
      split at refused
      · next code found =>
        cases refused
        obtain ⟨before, after, rfl, shown, hidden⟩ := find?_eq_some_iff_first.mp found
        exact firstFailure_cons.mpr (.inl (.partCharacters given shown hidden))
      · cases refused
  · next noText =>
    cases refused
    exact firstFailure_cons.mpr (.inl (.partType noText))

theorem checkPart_refused_iff {part : Part} :
    (∃ refusal, checkPart part (offer.part part) = .error refusal ∧ refusal.fault = fault) ↔
      FirstFailure offer.Fails (Check.ofPart part) fault :=
  refused_iff_firstFailure Fails.unique (fun _ => passes_of_checkPart part)
    fun _ => firstFailure_of_checkPart part

theorem passes_of_ofValues {triple : Triple}
    (accepted : ofValues offer.formatId offer.gtrid offer.bqual = .ok triple) :
    ∀ check ∈ Check.inOrder, ∀ other, ¬offer.Fails check other := by
  obtain ⟨formatId, formatAccepted, accepted⟩ := bind_eq_ok_iff.mp accepted
  obtain ⟨gtrid, gtridAccepted, accepted⟩ := bind_eq_ok_iff.mp accepted
  obtain ⟨bqual, bqualAccepted, _⟩ := bind_eq_ok_iff.mp accepted
  rw [Check.inOrder, List.forall_mem_append, List.forall_mem_append]
  exact ⟨passes_of_checkFormatId formatAccepted, passes_of_checkPart .gtrid gtridAccepted,
    passes_of_checkPart .bqual bqualAccepted⟩

theorem firstFailure_of_ofValues {refusal : Refusal} (printable : offer.Printable)
    (refused : ofValues offer.formatId offer.gtrid offer.bqual = .error refusal) :
    FirstFailure offer.Fails Check.inOrder refusal.fault := by
  rw [Check.inOrder, firstFailure_append, firstFailure_append]
  rcases bind_eq_error_iff.mp refused with formatRefused | ⟨formatId, formatAccepted, refused⟩
  · exact .inl (firstFailure_of_checkFormatId printable formatRefused)
  refine .inr ⟨passes_of_checkFormatId formatAccepted, ?_⟩
  rcases bind_eq_error_iff.mp refused with gtridRefused | ⟨gtrid, gtridAccepted, refused⟩
  · exact .inl (firstFailure_of_checkPart .gtrid gtridRefused)
  refine .inr ⟨passes_of_checkPart .gtrid gtridAccepted, ?_⟩
  rcases bind_eq_error_iff.mp refused with bqualRefused | ⟨bqual, _, refused⟩
  · exact firstFailure_of_checkPart .bqual bqualRefused
  · cases refused

theorem ofValues_refused_iff (printable : offer.Printable) :
    (∃ refusal, ofValues offer.formatId offer.gtrid offer.bqual = .error refusal ∧
      refusal.fault = fault) ↔ FirstFailure offer.Fails Check.inOrder fault :=
  refused_iff_firstFailure Fails.unique (fun _ => passes_of_ofValues)
    fun _ => firstFailure_of_ofValues printable

end Offer

end Triple

namespace BranchId

open Triple

theorem ofValues_eq_error_iff {formatId gtrid bqual : Value} {fault : Fault} :
    ofValues formatId gtrid bqual = .error fault ↔
      ∃ refusal, Triple.ofValues formatId gtrid bqual = .error refusal ∧ refusal.fault = fault := by
  unfold ofValues
  cases Triple.ofValues formatId gtrid bqual with
  | ok triple => simp
  | error refusal => simp

theorem made_of_ofValues {formatId gtrid bqual : Value} {id : BranchId}
    (accepted : ofValues formatId gtrid bqual = .ok id) :
    id.items = [formatId, gtrid, bqual] ∧ id.isUnparsed = false ∧
      [id.prepared, id.owner, id.database] = [.null, .null, .null] := by
  obtain ⟨triple, _, rfl, rfl, rfl, rfl⟩ := ofValues_eq_ok_iff.mp accepted
  exact ⟨rfl, rfl, rfl⟩

theorem first_failing_check_decides (offer : Offer) (printable : offer.Printable) :
    ((∃ id, ofValues offer.formatId offer.gtrid offer.bqual = .ok id) ↔
      Admissible offer.formatId offer.gtrid offer.bqual) ∧
    (∀ id, ofValues offer.formatId offer.gtrid offer.bqual = .ok id →
      id.items = [offer.formatId, offer.gtrid, offer.bqual] ∧ id.isUnparsed = false ∧
        [id.prepared, id.owner, id.database] = [.null, .null, .null]) ∧
    (∀ fault, ofValues offer.formatId offer.gtrid offer.bqual = .error fault ↔
      FirstFailure offer.Fails Check.inOrder fault) ∧
    (∀ check fault, offer.Fails check fault →
      fault.kind = if check.isOfType then .wrongType else .invalid) ∧
    (∀ fault, FirstFailure offer.Fails Check.ofFormat fault →
      ∀ gtrid bqual, ofValues offer.formatId gtrid bqual = .error fault) ∧
    ∀ fault, FirstFailure offer.Fails (Check.ofFormat ++ Check.ofPart .gtrid) fault →
      ∀ bqual, ofValues offer.formatId offer.gtrid bqual = .error fault := by
  have formatIndependent : ∀ fault, FirstFailure offer.Fails Check.ofFormat fault →
      ∀ gtrid bqual, ofValues offer.formatId gtrid bqual = .error fault := by
    intro fault first gtrid bqual
    obtain ⟨refusal, refused, rfl⟩ := (Offer.checkFormatId_refused_iff printable).mpr first
    exact ofValues_eq_error_iff.mpr ⟨refusal, bind_eq_error_iff.mpr (.inl refused), rfl⟩
  refine ⟨accepted_iff_admissible, fun _ => made_of_ofValues, ?_, fun _ _ fails => fails.kind,
    formatIndependent, ?_⟩
  · intro fault
    rw [ofValues_eq_error_iff]
    exact Offer.ofValues_refused_iff printable
  · intro fault first bqual
    rcases firstFailure_append.mp first with formatFirst | ⟨formatPasses, gtridFirst⟩
    · exact formatIndependent fault formatFirst offer.gtrid bqual
    · obtain ⟨formatId, formatAccepted⟩ := Offer.checkFormatId_accepts printable formatPasses
      obtain ⟨refusal, refused, rfl⟩ := Offer.checkPart_refused_iff.mpr gtridFirst
      refine ofValues_eq_error_iff.mpr ⟨refusal, bind_eq_error_iff.mpr (.inr ?_), rfl⟩
      exact ⟨formatId, formatAccepted, bind_eq_error_iff.mpr (.inl refused)⟩

theorem length_decides_before_characters :
    let member : Value := .derived 7 (.ofMember "Format" "PGJDBC" 7)
    let offer : Offer := ⟨member, .text (String.ofList (List.replicate 65 '\x1f')), .null⟩
    offer.Printable ∧
      ofValues offer.formatId offer.gtrid offer.bqual =
        .error (.plain .invalid "gtrid too long: at most 64 characters allowed, got 65") := by
  intro member offer
  have short : (7 : Int).natAbs < 10 ^ maxPrintedDigits := short_of_digit (by decide)
  have inserted : (Look.ofMember "Format" "PGJDBC" 7).inserted? = some (Int.repr 7) := by
    rw [Look.ofMember, printedInt?_of_short short]
  have printable : offer.Printable := ⟨_, inserted⟩
  have codes : (offer.part .gtrid).codes? = some (List.replicate 65 0x1f) := by decide
  refine ⟨printable, ((first_failing_check_decides offer printable).2.2.1 _).mpr ?_⟩
  refine ⟨[.formatType, .formatRange, .partType .gtrid], .partLength .gtrid,
    .partCharacters .gtrid :: Check.ofPart .bqual, rfl, ?_, .partLength codes (by decide)⟩
  intro check member other fails
  cases fails with
  | formatType noNumber => cases noNumber
  | formatRange given outside _ =>
      cases given
      omega
  | @partType part noText =>
      cases part with
      | gtrid => cases noText
      | bqual => simp at member
  | _ => simp at member

end BranchId

end InDoubt
