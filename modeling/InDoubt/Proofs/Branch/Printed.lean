import InDoubt.Proofs.Branch.Obtained
import InDoubt.Proofs.Value.Printed
import InDoubt.Proofs.Value.Texts

/-!
The printed form of an identifier tells which branch it names, whatever text it holds and whatever
its metadata print as, as long as that of the format number tells the number.
-/

namespace InDoubt

namespace Value

def OfCodePoints (value : Value) : Prop :=
  ∀ codes, value.codes? = some codes → ∀ code ∈ codes, code < 0x110000

theorem ofCodePoints_text (given : String) : (text given).OfCodePoints := by
  intro codes same code member
  cases same
  obtain ⟨character, _, rfl⟩ := List.mem_map.mp member
  exact Text.toNat_lt character

theorem eq_of_printed_append {first second : Value} {written written' : String}
    {rest rest' : List Char} (firstText : first.isText = true) (secondText : second.isText = true)
    (firstPoints : first.OfCodePoints) (secondPoints : second.OfCodePoints)
    (firstPrinted : first.printed? = some written) (secondPrinted : second.printed? = some written')
    (same : written.toList ++ rest = written'.toList ++ rest') :
    first = second ∧ rest = rest' := by
  obtain ⟨codes, held⟩ := Option.isSome_iff_exists.mp firstText
  obtain ⟨codes', held'⟩ := Option.isSome_iff_exists.mp secondText
  rw [printed?_of_codes? held, Option.some.injEq] at firstPrinted
  rw [printed?_of_codes? held', Option.some.injEq] at secondPrinted
  cases firstPrinted
  cases secondPrinted
  obtain ⟨rfl, restSame⟩ :=
    Text.codes_eq_of_quotedCodes_append (firstPoints _ held) (secondPoints _ held') same
  exact ⟨eq_of_codes?_eq held held', restSame⟩

theorem printed?_formatIdValue (formatId : FormatId) :
    (formatIdValue formatId).printed? = formatId.printed? := by
  obtain ⟨number, look⟩ := formatId
  cases look with
  | none => rw [formatIdValue, printed?, FormatId.printed?]
  | some look => rw [formatIdValue, printed?, FormatId.printed?]

/-- What makes the printed forms of two format numbers tell them apart: they hold no comma, and
other numbers print otherwise. -/
structure Told (first second : Value) : Prop where
  clear : ∀ written, first.printed? = some written → ',' ∉ written.toList
  clear' : ∀ written, second.printed? = some written → ',' ∉ written.toList
  number : ∀ written given given', first.printed? = some written → second.printed? = some written →
    first.number? = some given → second.number? = some given' → given = given'

end Value

namespace FormatId

/-- A number that is plain, or the member of an enumeration that prints as members do. Its names
hold neither of the signs that divide what is printed. -/
inductive Ordinary : FormatId → Prop
  | plain {number : Nat} : Ordinary ⟨number, none⟩
  | member {number : Nat} {look : Look} (className memberName : String)
      (shown : look.printed? = (Look.ofMember className memberName number).printed?)
      (clear : ∀ character ∈ className.toList ++ memberName.toList,
        character ≠ ',' ∧ character ≠ ':') : Ordinary ⟨number, some look⟩

theorem printedInt?_of_valid {number : Nat} (bounded : number ≤ Triple.maxFormatId) :
    printedInt? number = some (String.ofList (Nat.toDigits 10 number)) := by
  have small : (number : Int).natAbs < 10 ^ 10 :=
    calc number ≤ Triple.maxFormatId := bounded
      _ < 10 ^ 10 := by decide
  rw [printedInt?_of_short (short_of_lt_pow small (by decide))]
  rfl

theorem isDigit_of_mem_toDigits {number : Nat} {character : Char}
    (member : character ∈ Nat.toDigits 10 number) : character.isDigit = true :=
  Nat.isDigit_of_mem_toDigits (by decide) (by decide) member

theorem number_eq_of_toDigits_eq {number number' : Nat}
    (same : Nat.toDigits 10 number = Nat.toDigits 10 number') : number = number' :=
  calc number
      = Nat.ofDigitChars 10 (Nat.toDigits 10 number) 0 := Nat.ofDigitChars_ten_toDigits.symm
    _ = Nat.ofDigitChars 10 (Nat.toDigits 10 number') 0 := congrArg (Nat.ofDigitChars 10 · 0) same
    _ = number' := Nat.ofDigitChars_ten_toDigits

inductive Prints (number : Nat) : List Char → Prop
  | alone : Prints number (Nat.toDigits 10 number)
  | named {names : List Char} (clear : ∀ character ∈ names, character ≠ ',' ∧ character ≠ ':') :
      Prints number ('<' :: names ++ ':' :: ' ' :: (Nat.toDigits 10 number ++ ['>']))

variable {formatId : FormatId} {number number' : Nat} {written : List Char}

theorem Ordinary.prints (ordinary : formatId.Ordinary)
    (bounded : formatId.number ≤ Triple.maxFormatId) :
    ∃ written, formatId.printed? = some written ∧ Prints formatId.number written.toList := by
  cases ordinary with
  | @plain number =>
      refine ⟨_, printedInt?_of_valid bounded, ?_⟩
      rw [String.toList_ofList]
      exact .alone
  | @member number look className memberName shown clear =>
      have printed : look.printed? = some ("<" ++ className ++ "." ++ memberName ++ ": " ++
          String.ofList (Nat.toDigits 10 number) ++ ">") := by
        rw [shown, Look.ofMember, printedInt?_of_valid bounded]
        rfl
      refine ⟨_, printed, ?_⟩
      have laidOut : ("<" ++ className ++ "." ++ memberName ++ ": " ++
          String.ofList (Nat.toDigits 10 number) ++ ">").toList =
            '<' :: (className.toList ++ '.' :: memberName.toList) ++
              ':' :: ' ' :: (Nat.toDigits 10 number ++ ['>']) := by
        simp
      rw [laidOut]
      refine .named ?_
      intro character mem
      rcases List.mem_append.mp mem with inClass | inMember
      · exact clear character (List.mem_append_left _ inClass)
      · rcases List.mem_cons.mp inMember with rfl | inMember
        · decide
        · exact clear character (List.mem_append_right _ inMember)

theorem Prints.clear (prints : Prints number written) : ',' ∉ written := by
  have digits : ',' ∉ Nat.toDigits 10 number :=
    fun member => absurd (isDigit_of_mem_toDigits member) (by decide)
  cases prints with
  | alone => exact digits
  | named clear =>
      have names : ∀ names : List Char, (∀ character ∈ names, character ≠ ',' ∧ character ≠ ':') →
          ',' ∉ names := fun _ clear member => (clear _ member).1 rfl
      simp [names _ clear, digits]

theorem Prints.number_eq (prints : Prints number written) (prints' : Prints number' written) :
    number = number' := by
  -- No digit opens a bracket, so either both numbers stand alone or both come after names.
  have bracket : ∀ number : Nat, ∀ rest : List Char, Nat.toDigits 10 number ≠ '<' :: rest := by
    intro number rest same
    have digit : ('<' : Char).isDigit = true :=
      isDigit_of_mem_toDigits (same ▸ List.mem_cons_self)
    exact absurd digit (by decide)
  cases prints with
  | alone =>
      generalize same : Nat.toDigits 10 number = digits at prints'
      cases prints' with
      | alone => exact number_eq_of_toDigits_eq same
      | named _ => exact absurd same (bracket _ _)
  | @named names clear =>
      generalize same : '<' :: names ++ ':' :: ' ' :: (Nat.toDigits 10 number ++ ['>']) = shown
        at prints'
      cases prints' with
      | alone => exact absurd same.symm (bracket _ _)
      | @named names' clear' =>
          obtain ⟨_, afterNames⟩ :=
            Flat.front_eq_of_append_cons (fun member => (clear _ member).2 rfl)
              (fun member => (clear' _ member).2 rfl) (List.tail_eq_of_cons_eq same)
          exact number_eq_of_toDigits_eq
            (List.append_cancel_right (List.tail_eq_of_cons_eq afterNames))

end FormatId

namespace BranchId

def printedWith? (shown : Value → Option String) (id : BranchId) : Option String := do
  let extra := fun (name : String) (value : Value) =>
    if value.isNull then some [] else (shown value).map fun part => [name ++ "=" ++ part]
  let formatId ← id.formatId.printed?
  let gtrid ← id.gtrid.printed?
  let bqual ← id.bqual.printed?
  let prepared ← extra "prepared" id.prepared
  let owner ← extra "owner" id.owner
  let database ← extra "database" id.database
  some ("Xid(" ++ commaSeparated ([formatId, gtrid, bqual] ++ prepared ++ owner ++ database) ++ ")")

theorem printedWith?_printed? (id : BranchId) : id.printedWith? Value.printed? = id.printed? := rfl

theorem exists_commaSeparated_cons (part : String) (more : List String) :
    ∃ rest, (commaSeparated (part :: more)).toList = part.toList ++ rest := by
  unfold commaSeparated
  cases more with
  | nil => exact ⟨[], by rw [String.intercalate_singleton, List.append_nil]⟩
  | cons next rest =>
      rw [String.intercalate_cons_cons, String.append_assoc, String.toList_append]
      exact ⟨_, rfl⟩

theorem toList_commaSeparated_cons (part next : String) (more : List String) :
    (commaSeparated (part :: next :: more)).toList =
      part.toList ++ ',' :: ' ' :: (commaSeparated (next :: more)).toList := by
  simp only [commaSeparated, String.intercalate_cons_cons, String.toList_append, List.append_assoc]
  rfl

theorem printedWith?_eq_some {shown : Value → Option String} {id : BranchId} {written : String}
    (printed : id.printedWith? shown = some written) :
    ∃ formatId gtrid bqual rest, id.formatId.printed? = some formatId ∧
      id.gtrid.printed? = some gtrid ∧ id.bqual.printed? = some bqual ∧
      written.toList = "Xid(".toList ++ (formatId.toList ++ ',' :: ' ' ::
        (gtrid.toList ++ ',' :: ' ' :: (bqual.toList ++ rest))) := by
  simp only [printedWith?, Option.bind_eq_bind, Option.bind_eq_some_iff, Option.some.injEq]
    at printed
  obtain ⟨formatId, formatPrinted, gtrid, gtridPrinted, bqual, bqualPrinted, prepared, _, owner, _,
    database, _, rfl⟩ := printed
  obtain ⟨rest, separated⟩ := exists_commaSeparated_cons bqual (prepared ++ owner ++ database)
  refine ⟨formatId, gtrid, bqual, rest ++ ")".toList, formatPrinted, gtridPrinted, bqualPrinted, ?_⟩
  simp only [String.toList_append, List.cons_append, List.nil_append, List.append_assoc,
    toList_commaSeparated_cons] at separated ⊢
  rw [separated, List.append_assoc]

def HasOrdinaryNumber (id : BranchId) : Prop :=
  ∀ triple, id.form = .structured triple → triple.formatId.Ordinary

theorem exists_printed?_formatId {id : BranchId} (canonical : id.form.Canonical)
    (ordinary : id.HasOrdinaryNumber) :
    ∃ written, id.formatId.printed? = some written ∧ ',' ∉ written.toList ∧
      ∀ given, id.formatId.number? = some given →
        ∃ number : Nat, given = .int number ∧ FormatId.Prints number written.toList := by
  obtain ⟨form, prepared, owner, database⟩ := id
  cases form with
  | structured triple =>
      have valid : triple.Valid := canonical
      obtain ⟨written, printed, prints⟩ := (ordinary triple rfl).prints valid.1
      refine ⟨written, (Value.printed?_formatIdValue _).trans printed, prints.clear, ?_⟩
      intro given counted
      refine ⟨triple.formatId.number, ?_, prints⟩
      exact Option.some.inj (counted.symm.trans (Value.number?_formatIdValue _))
  | verbatim raw =>
      refine ⟨"None", by rw [formatId, Value.printed?], by decide, ?_⟩
      intro given counted
      cases counted

theorem told_of_ordinary {first second : BranchId} (firstCanonical : first.form.Canonical)
    (secondCanonical : second.form.Canonical) (firstOrdinary : first.HasOrdinaryNumber)
    (secondOrdinary : second.HasOrdinaryNumber) : Value.Told first.formatId second.formatId := by
  obtain ⟨written, printed, noComma, counted⟩ :=
    exists_printed?_formatId firstCanonical firstOrdinary
  obtain ⟨written', printed', noComma', counted'⟩ :=
    exists_printed?_formatId secondCanonical secondOrdinary
  refine ⟨?_, ?_, ?_⟩
  · intro other otherPrinted
    cases printed.symm.trans otherPrinted
    exact noComma
  · intro other otherPrinted
    cases printed'.symm.trans otherPrinted
    exact noComma'
  · intro other given given' firstPrinted secondPrinted firstNumber secondNumber
    cases printed.symm.trans firstPrinted
    cases printed'.symm.trans secondPrinted
    obtain ⟨number, rfl, prints⟩ := counted given firstNumber
    obtain ⟨number', rfl, prints'⟩ := counted' given' secondNumber
    rw [prints.number_eq prints']

theorem isText_gtrid {id : BranchId} (canonical : id.form.Canonical) : id.gtrid.isText = true := by
  obtain ⟨form, prepared, owner, database⟩ := id
  cases form with
  | structured triple => rfl
  | verbatim raw => exact canonical.1

theorem exists_printedWith? {shown : Value → Option String} {id : BranchId}
    (canonical : id.form.Canonical) (number : ∃ part, id.formatId.printed? = some part)
    (metadata : ∀ value ∈ [id.prepared, id.owner, id.database], ∃ part, shown value = some part) :
    ∃ written, id.printedWith? shown = some written := by
  have extra : ∀ (name : String) (value : Value), (∃ part, shown value = some part) →
      ∃ parts, (if value.isNull then some [] else
        (shown value).map fun part => [name ++ "=" ++ part]) = some parts := by
    intro name value ⟨part, shownAs⟩
    split
    · exact ⟨[], rfl⟩
    · exact ⟨[name ++ "=" ++ part], by rw [shownAs]; rfl⟩
  simp only [List.forall_mem_cons, List.not_mem_nil, false_imp_iff, implies_true, and_true]
    at metadata
  obtain ⟨prepared, preparedShown⟩ := extra "prepared" id.prepared metadata.1
  obtain ⟨owner, ownerShown⟩ := extra "owner" id.owner metadata.2.1
  obtain ⟨database, databaseShown⟩ := extra "database" id.database metadata.2.2
  obtain ⟨formatId, formatPrinted⟩ := number
  obtain ⟨codes, held⟩ := Option.isSome_iff_exists.mp (isText_gtrid canonical)
  have gtridPrinted := Value.printed?_of_codes? held
  obtain ⟨bqual, bqualPrinted⟩ : ∃ bqual, id.bqual.printed? = some bqual := by
    unfold BranchId.bqual
    split
    · exact ⟨_, Value.printed?_of_codes? rfl⟩
    · exact ⟨"None", by rw [Value.printed?]⟩
  simp only [printedWith?, formatPrinted, gtridPrinted, bqualPrinted, preparedShown, ownerShown,
    databaseShown, Option.bind_eq_bind, Option.bind_some]
  exact ⟨_, rfl⟩

variable {first second : BranchId} {shown shown' : Value → Option String} {written : String}

/-- Equal printed forms agree on the format number and the first component, and from there on. -/
theorem components_of_printedWith?_eq (firstCanonical : first.form.Canonical)
    (secondCanonical : second.form.Canonical) (firstPoints : first.gtrid.OfCodePoints)
    (secondPoints : second.gtrid.OfCodePoints)
    (told : Value.Told first.formatId second.formatId)
    (firstPrinted : first.printedWith? shown = some written)
    (secondPrinted : second.printedWith? shown' = some written) :
    (∀ given given', first.formatId.number? = some given →
        second.formatId.number? = some given' → given = given') ∧ first.gtrid = second.gtrid ∧
      ∃ (bqual bqual' : String) (rest rest' : List Char), first.bqual.printed? = some bqual ∧
        second.bqual.printed? = some bqual' ∧ bqual.toList ++ rest = bqual'.toList ++ rest' := by
  obtain ⟨formatId, gtrid, bqual, rest, formatPrinted, gtridPrinted, bqualPrinted, laidOut⟩ :=
    printedWith?_eq_some firstPrinted
  obtain ⟨formatId', gtrid', bqual', rest', formatPrinted', gtridPrinted', bqualPrinted',
    laidOut'⟩ := printedWith?_eq_some secondPrinted
  rw [laidOut, List.append_right_inj] at laidOut'
  obtain ⟨formatSame, afterFormat⟩ :=
    Flat.front_eq_of_append_cons (told.clear _ formatPrinted) (told.clear' _ formatPrinted')
      laidOut'
  obtain ⟨gtridSame, afterGtrid⟩ :=
    Value.eq_of_printed_append (isText_gtrid firstCanonical) (isText_gtrid secondCanonical)
      firstPoints secondPoints gtridPrinted gtridPrinted' (List.tail_eq_of_cons_eq afterFormat)
  cases String.toList_inj.mp formatSame
  exact ⟨fun given given' => told.number _ given given' formatPrinted formatPrinted', gtridSame,
    bqual, bqual', rest, rest', bqualPrinted, bqualPrinted',
    List.tail_eq_of_cons_eq (List.tail_eq_of_cons_eq afterGtrid)⟩

theorem printed_null_ne_printed_text {text nothing component : String} {rest rest' : List Char}
    (nullPrinted : Value.null.printed? = some nothing)
    (textPrinted : (Value.text text).printed? = some component) :
    nothing.toList ++ rest ≠ component.toList ++ rest' := by
  intro same
  have held : (Value.text text).codes? = some (Text.codes text) := rfl
  rw [Value.printed?, Option.some.injEq] at nullPrinted
  rw [Value.printed?_of_codes? held, Option.some.injEq] at textPrinted
  subst nullPrinted textPrinted
  obtain ⟨quote, isQuote, written⟩ := Text.toList_quotedCodes (Text.codes text)
  rw [written] at same
  rw [← List.head_eq_of_cons_eq same] at isQuote
  rcases isQuote with impossible | impossible
  · exact absurd impossible (by decide)
  · exact absurd impossible (by decide)

theorem beq_of_printedWith?_eq (firstCanonical : first.form.Canonical)
    (secondCanonical : second.form.Canonical) (firstPoints : first.gtrid.OfCodePoints)
    (secondPoints : second.gtrid.OfCodePoints)
    (told : Value.Told first.formatId second.formatId)
    (firstPrinted : first.printedWith? shown = some written)
    (secondPrinted : second.printedWith? shown' = some written) : (first == second) = true := by
  obtain ⟨numberSame, gtridSame, bqual, bqual', rest, rest', bqualPrinted, bqualPrinted',
    fromBqual⟩ := components_of_printedWith?_eq firstCanonical secondCanonical firstPoints
      secondPoints told firstPrinted secondPrinted
  obtain ⟨form, prepared, owner, database⟩ := first
  obtain ⟨form', prepared', owner', database'⟩ := second
  cases form with
  | structured triple =>
      cases form' with
      | structured triple' =>
          have numbers := numberSame _ _ (Value.number?_formatIdValue triple.formatId)
            (Value.number?_formatIdValue triple'.formatId)
          obtain ⟨bqualSame, _⟩ :=
            Value.eq_of_printed_append rfl rfl (Value.ofCodePoints_text triple.bqual)
              (Value.ofCodePoints_text triple'.bqual) bqualPrinted bqualPrinted' fromBqual
          show triple.same triple' = true
          simp only [Triple.same, Bool.and_eq_true, beq_iff_eq]
          exact ⟨⟨Int.ofNat_inj.mp (Number.int.inj numbers), Value.text.inj gtridSame⟩,
            Value.text.inj bqualSame⟩
      | verbatim raw' =>
          exact absurd fromBqual.symm (printed_null_ne_printed_text bqualPrinted' bqualPrinted)
  | verbatim raw =>
      cases form' with
      | structured triple' =>
          exact absurd fromBqual (printed_null_ne_printed_text bqualPrinted bqualPrinted')
      | verbatim raw' =>
          exact (Value.same_iff_of_isText firstCanonical.1 secondCanonical.1).mpr gtridSame

end BranchId

end InDoubt
