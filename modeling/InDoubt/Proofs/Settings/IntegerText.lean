import InDoubt.Proofs.Settings.IntegerSpelling

namespace InDoubt.Settings

open Flat (Decimal)

def NoFraction (text : List Char) : Prop :=
  text = [] ∨ ∃ zeros, text = '.' :: zeros ∧ zeros ≠ [] ∧ ∀ digit ∈ zeros, digit = '0'

def Blank (text : List Char) : Prop := ∀ character ∈ text, isBlank character = true

inductive IntegerText : List Char → Int → Prop
  | intro {before body fraction after : List Char} {number : Int} (blankBefore : Blank before)
      (signed : Signed body number) (whole : NoFraction fraction) (blankAfter : Blank after) :
      IntegerText (before ++ (body ++ fraction) ++ after) number

theorem trimmed_spec (text : List Char) :
    ∃ before after, Blank before ∧ Blank after ∧ text = before ++ trimmed text ++ after := by
  have front := List.takeWhile_append_dropWhile (p := isBlank) (l := text)
  have back := List.takeWhile_append_dropWhile (p := isBlank)
    (l := (text.dropWhile isBlank).reverse)
  refine ⟨text.takeWhile isBlank,
    ((text.dropWhile isBlank).reverse.takeWhile isBlank).reverse, ?_, ?_, ?_⟩
  · intro character member
    exact List.mem_takeWhile_imp member
  · intro character member
    exact List.mem_takeWhile_imp (List.mem_reverse.mp member)
  · rw [List.append_assoc, trimmed, ← List.reverse_append, back, List.reverse_reverse, front]

theorem dropWhile_of_noBlank {text : List Char}
    (noBlank : ∀ character ∈ text, isBlank character = false) : text.dropWhile isBlank = text := by
  cases text with
  | nil => rfl
  | cons first rest =>
      exact List.dropWhile_cons_of_neg (by rw [noBlank first List.mem_cons_self]; decide)

theorem trimmed_eq {before middle after : List Char} (blankBefore : Blank before)
    (noBlank : ∀ character ∈ middle, isBlank character = false) (blankAfter : Blank after) :
    trimmed (before ++ middle ++ after) = middle := by
  have blankReverse : ∀ character ∈ after.reverse, isBlank character = true :=
    fun character member => blankAfter character (List.mem_reverse.mp member)
  rw [trimmed, List.append_assoc, List.dropWhile_append_of_pos blankBefore]
  cases middle with
  | nil =>
      rw [List.nil_append, List.dropWhile_eq_nil_iff.mpr blankAfter]
      rfl
  | cons first rest =>
      rw [List.cons_append, List.dropWhile_cons_of_neg (by simp [noBlank first]),
        ← List.cons_append, List.reverse_append, List.dropWhile_append_of_pos blankReverse,
        dropWhile_of_noBlank, List.reverse_reverse]
      exact fun character member => noBlank character (List.mem_reverse.mp member)

theorem withoutFraction_spec (text : List Char) :
    ∃ fraction, NoFraction fraction ∧ text = withoutFraction text ++ fraction := by
  unfold withoutFraction
  split
  next whole first zeros found =>
    split
    next all =>
      refine ⟨'.' :: first :: zeros, .inr ⟨first :: zeros, rfl, List.cons_ne_nil _ _, ?_⟩, ?_⟩
      · exact fun digit member => by simpa using List.all_eq_true.mp all digit member
      · rw [← found, List.takeWhile_append_dropWhile]
    next => exact ⟨[], .inl rfl, (List.append_nil text).symm⟩
  next => exact ⟨[], .inl rfl, (List.append_nil text).symm⟩

theorem withoutFraction_eq {body fraction : List Char}
    (noPoint : ∀ character ∈ body, character ≠ '.')
    (whole : NoFraction fraction) : withoutFraction (body ++ fraction) = body := by
  have passed : ∀ character ∈ body, (character != '.') = true :=
    fun character member => by simpa using noPoint character member
  unfold withoutFraction
  rw [List.dropWhile_append_of_pos passed, List.takeWhile_append_of_pos passed]
  obtain rfl | ⟨zeros, rfl, some, zero⟩ := whole
  · simp
  · obtain ⟨first, rest, rfl⟩ := List.exists_cons_of_ne_nil some
    have all : (first :: rest).all (· == '0') = true :=
      List.all_eq_true.mpr fun digit member => by simpa using zero digit member
    simp [all]

/-- What a spelled number consists of is neither blank nor a point. -/
def Inner (character : Char) : Prop :=
  character.isDigit = true ∨ character = '_' ∨ character = '-' ∨ character = '+'

theorem inner_of_grouped {spelled digits : List Char} (grouped : Grouped spelled digits) :
    ∀ character ∈ spelled, Inner character := by
  induction grouped with
  | last numeric => simpa [Inner] using .inl numeric
  | next numeric _ restInner => exact List.forall_mem_cons.mpr ⟨.inl numeric, restInner⟩
  | apart numeric _ restInner =>
      exact List.forall_mem_cons.mpr ⟨.inl numeric,
        List.forall_mem_cons.mpr ⟨.inr (.inl rfl), restInner⟩⟩

theorem inner_of_padding {padding : List Char} (padded : Padding padding) :
    ∀ character ∈ padding, Inner character := by
  obtain rfl | ⟨zeros, rfl, zero⟩ := padded
  · exact List.forall_mem_nil _
  · refine List.forall_mem_cons.mpr ⟨.inl rfl, ?_⟩
    intro other member
    rcases zero other member with rfl | rfl
    · exact .inl rfl
    · exact .inr (.inl rfl)

theorem inner_of_optional {mark : Char} {text : List Char} (optional : Optional mark text)
    (inner : Inner mark) : ∀ character ∈ text, Inner character := by
  obtain rfl | rfl := optional
  · exact List.forall_mem_nil _
  · simpa using inner

theorem inner_of_signed {body : List Char} {number : Int} (signed : Signed body number) :
    ∀ character ∈ body, Inner character := by
  have minus : Inner '-' := .inr (.inr (.inl rfl))
  have plusMark : Inner '+' := .inr (.inr (.inr rfl))
  have underscore : Inner '_' := .inr (.inl rfl)
  cases signed with
  | plus plus padded grouped decimal =>
      simp only [List.forall_mem_append]
      exact ⟨inner_of_optional plus plusMark, inner_of_padding padded, inner_of_grouped grouped⟩
  | minus padded grouped decimal =>
      simp only [List.forall_mem_cons, List.forall_mem_append]
      exact ⟨minus, inner_of_padding padded, inner_of_grouped grouped⟩
  | lateMinus plus padded present optional grouped decimal =>
      simp only [List.forall_mem_cons, List.forall_mem_append]
      exact ⟨inner_of_optional plus plusMark, inner_of_padding padded, minus,
        inner_of_optional optional underscore, inner_of_grouped grouped⟩

theorem isBlank_of_isDigit {digit : Char} (numeric : digit.isDigit = true) :
    isBlank digit = false := by
  have bounds : 48 ≤ digit.toNat ∧ digit.toNat ≤ 57 := Flat.isDigit_iff.mp numeric
  simp only [isBlank]
  grind

theorem Inner.not_blank {character : Char} (inner : Inner character) :
    isBlank character = false := by
  rcases inner with numeric | rfl | rfl | rfl
  · exact isBlank_of_isDigit numeric
  · rfl
  · rfl
  · rfl

theorem Inner.ne_point {character : Char} (inner : Inner character) : character ≠ '.' := by
  rcases inner with numeric | rfl | rfl | rfl
  · exact ne_of_isDigit numeric rfl
  · decide
  · decide
  · decide

theorem not_blank_of_noFraction {fraction : List Char} (whole : NoFraction fraction) :
    ∀ character ∈ fraction, isBlank character = false := by
  obtain rfl | ⟨zeros, rfl, _, zero⟩ := whole
  · exact List.forall_mem_nil _
  · refine List.forall_mem_cons.mpr ⟨rfl, ?_⟩
    intro digit member
    rw [zero digit member]
    rfl

theorem body_of_integerText {before body fraction after : List Char} {number : Int}
    (blankBefore : Blank before) (signed : Signed body number) (whole : NoFraction fraction)
    (blankAfter : Blank after) :
    withoutFraction (trimmed (before ++ (body ++ fraction) ++ after)) = body := by
  have inner := inner_of_signed signed
  rw [trimmed_eq blankBefore _ blankAfter, withoutFraction_eq _ whole]
  · exact fun character member => (inner character member).ne_point
  · rw [List.forall_mem_append]
    exact ⟨fun character member => (inner character member).not_blank,
      not_blank_of_noFraction whole⟩

theorem integerText_of_plainSpelling? {text plain : List Char} {number : Int}
    (found : plainSpelling? text = some plain) (read : readPlainInteger plain = .ok number) :
    IntegerText text number := by
  obtain ⟨before, after, blankBefore, blankAfter, same⟩ := trimmed_spec text
  obtain ⟨fraction, whole, sameTrimmed⟩ := withoutFraction_spec (trimmed text)
  rw [plainSpelling?_eq] at found
  rw [sameTrimmed] at same
  rw [same]
  exact .intro blankBefore (signed_of_plainBody? found read) whole blankAfter

theorem plainSpelling?_of_integerText {text : List Char} {number : Int}
    (counts : IntegerText text number) (short : number.natAbs < 10 ^ maxPrintedDigits) :
    ∃ plain, plainSpelling? text = some plain ∧ readPlainInteger plain = .ok number := by
  obtain ⟨blankBefore, signed, whole, blankAfter⟩ := counts
  rw [plainSpelling?_eq, body_of_integerText blankBefore signed whole blankAfter]
  exact plainBody?_of_signed signed short

theorem integerText_of_signed {text : List Char} {number : Int} (signed : Signed text number) :
    IntegerText text number := by
  have bare := IntegerText.intro (List.forall_mem_nil _) signed (.inl rfl) (List.forall_mem_nil _)
  rwa [List.nil_append, List.append_nil, List.append_nil] at bare

theorem natAbs_signed (negative : Bool) (size : Nat) : (signed negative size).natAbs = size := by
  cases negative with
  | true => exact Int.natAbs_neg size
  | false => rfl

theorem grouped_decimal {digits : List Char} {size : Nat} (decimal : Decimal digits size) :
    Grouped digits digits := by
  refine grouped_self ?_ (numeric_of_decimal decimal)
  rw [decimal.eq_toDigits]
  exact Nat.toDigits_ne_nil

theorem integerText_of_readPlainInteger {text : List Char} {number : Int}
    (read : readPlainInteger text = .ok number) :
    IntegerText text number ∧ number.natAbs < 10 ^ maxPrintedDigits := by
  by_cases minus : text.head? = some '-'
  · obtain ⟨unsigned, rfl⟩ := List.head?_eq_some_iff.mp minus
    rw [readPlainInteger_minus] at read
    obtain ⟨size, decimal, short, rfl⟩ := decimal_of_readUnsigned read
    rw [natAbs_signed]
    exact ⟨integerText_of_signed (.minus (.inl rfl) (grouped_decimal decimal) decimal), short⟩
  · rw [readPlainInteger_of_noMinus minus] at read
    obtain ⟨size, decimal, short, rfl⟩ := decimal_of_readUnsigned read
    rw [natAbs_signed]
    exact ⟨integerText_of_signed (.plus (.inl rfl) (.inl rfl) (grouped_decimal decimal) decimal),
      short⟩

theorem error_of_readUnsigned {negative : Bool} {unsigned : List Char} {complaint : Complaint}
    (refused : readUnsigned negative unsigned = .error complaint) :
    complaint = .notIntegerText ∨ complaint = .integerTooLong ∧
      unsigned.head?.any isNonzeroDigit = true ∧
      maxPrintedDigits < (unsigned.takeWhile Char.isDigit).length := by
  simp only [readUnsigned] at refused
  split at refused
  next => cases refused
  next =>
    split at refused
    next =>
      cases refused
      exact .inl rfl
    next nonzero =>
      split at refused
      next long =>
        cases refused
        exact .inr ⟨rfl, by simpa using nonzero, long⟩
      next =>
        split at refused
        next =>
          cases refused
          exact .inl rfl
        next => cases refused

theorem error_of_readPlainInteger {text : List Char} {complaint : Complaint}
    (refused : readPlainInteger text = .error complaint) :
    complaint = .notIntegerText ∨ complaint = .integerTooLong ∧
      ∃ unsigned, (text = '-' :: unsigned ∨ text = unsigned) ∧
        unsigned.head?.any isNonzeroDigit = true ∧
        maxPrintedDigits < (unsigned.takeWhile Char.isDigit).length := by
  by_cases minus : text.head? = some '-'
  · obtain ⟨unsigned, rfl⟩ := List.head?_eq_some_iff.mp minus
    rw [readPlainInteger_minus] at refused
    exact (error_of_readUnsigned refused).imp_right fun long => ⟨long.1, _, .inl rfl, long.2⟩
  · rw [readPlainInteger_of_noMinus minus] at refused
    exact (error_of_readUnsigned refused).imp_right fun long => ⟨long.1, _, .inr rfl, long.2⟩

/-- The digits that a spelled number starts with are among its digits. -/
theorem length_takeWhile_grouped {spelled digits more : List Char}
    (grouped : Grouped spelled digits)
    (stops : more.takeWhile Char.isDigit = []) :
    ((spelled ++ more).takeWhile Char.isDigit).length ≤ digits.length := by
  induction grouped with
  | last numeric => simp [numeric, stops]
  | next numeric _ restLength =>
      rw [List.cons_append, List.takeWhile_cons_of_pos numeric]
      exact Nat.succ_le_succ restLength
  | apart numeric _ _ =>
      rw [List.cons_append, List.takeWhile_cons_of_pos numeric, List.cons_append,
        List.takeWhile_cons_of_neg (by decide)]
      simp

theorem takeWhile_after_number {fraction after : List Char} (whole : NoFraction fraction)
    (blankAfter : Blank after) : (fraction ++ after).takeWhile Char.isDigit = [] := by
  obtain rfl | ⟨zeros, rfl, _⟩ := whole
  · cases after with
    | nil => rfl
    | cons first rest =>
        refine List.takeWhile_cons_of_neg ?_
        intro numeric
        have blank := blankAfter first List.mem_cons_self
        rw [isBlank_of_isDigit numeric] at blank
        cases blank
  · rfl

theorem length_takeWhile_padded {padding spelled digits more : List Char} {size : Nat}
    (padded : Padding padding) (grouped : Grouped spelled digits) (decimal : Decimal digits size)
    (short : size < 10 ^ maxPrintedDigits) (stops : more.takeWhile Char.isDigit = [])
    (nonzero : (padding ++ (spelled ++ more)).head?.any isNonzeroDigit = true) :
    ((padding ++ (spelled ++ more)).takeWhile Char.isDigit).length ≤ maxPrintedDigits := by
  obtain rfl | ⟨zeros, rfl, _⟩ := padded
  · exact (length_takeWhile_grouped grouped stops).trans
      ((length_le_iff_of_decimal decimal).mpr short)
  · cases nonzero

theorem length_takeWhile_signed {body more unsigned : List Char} {number : Int}
    (signed : Signed body number) (short : number.natAbs < 10 ^ maxPrintedDigits)
    (stops : more.takeWhile Char.isDigit = [])
    (sign : body ++ more = '-' :: unsigned ∨ body ++ more = unsigned)
    (nonzero : unsigned.head?.any isNonzeroDigit = true) :
    (unsigned.takeWhile Char.isDigit).length ≤ maxPrintedDigits := by
  cases signed with
  | plus plus padded grouped decimal =>
      rename_i mark padding spelled digits size
      obtain rfl | rfl := plus
      · rw [List.nil_append, List.append_assoc] at sign
        rcases sign with minus | rfl
        · obtain ⟨first, rest, rfl, numeric, _⟩ := head_of_grouped grouped
          obtain ⟨digit, head, digitNumeric⟩ :=
            head_of_padded padded (fun _ => numeric) (rest ++ more)
          rw [← List.cons_append, minus] at head
          cases head
          cases digitNumeric
        · exact length_takeWhile_padded padded grouped decimal short stops nonzero
      · rcases sign with minus | rfl
        · cases minus
        · cases nonzero
  | minus padded grouped decimal =>
      rename_i padding spelled digits size
      rw [Int.natAbs_neg] at short
      rw [List.cons_append, List.append_assoc] at sign
      rcases sign with minus | rfl
      · cases minus
        exact length_takeWhile_padded padded grouped decimal short stops nonzero
      · cases nonzero
  | lateMinus plus padded present optional grouped decimal =>
      -- Neither a plus nor a zero in front is plain.
      obtain ⟨zeros, rfl, _⟩ := padded.resolve_left present
      obtain rfl | rfl := plus
      · rcases sign with minus | rfl
        · cases minus
        · cases nonzero
      · rcases sign with minus | rfl
        · cases minus
        · cases nonzero

theorem eq_nil_of_blank {before rest : List Char} (blankBefore : Blank before)
    (starts : ∀ first ∈ (before ++ rest).head?, first = '-' ∨ isNonzeroDigit first = true) :
    before = [] := by
  cases before with
  | nil => rfl
  | cons first others =>
      have blank := blankBefore first List.mem_cons_self
      rcases starts first rfl with rfl | nonzero
      · cases blank
      · simp only [isNonzeroDigit, Bool.and_eq_true] at nonzero
        rw [isBlank_of_isDigit nonzero.1] at blank
        cases blank

theorem readPlainInteger_not_tooLong {text : List Char} {number : Int}
    (counts : IntegerText text number) (short : number.natAbs < 10 ^ maxPrintedDigits) :
    readPlainInteger text ≠ .error .integerTooLong := by
  intro refused
  rcases error_of_readPlainInteger refused with other | ⟨_, unsigned, sign, nonzero, long⟩
  · cases other
  have starts : ∀ first ∈ text.head?, first = '-' ∨ isNonzeroDigit first = true := by
    intro first isFirst
    rcases sign with rfl | rfl
    · cases isFirst
      exact .inl rfl
    · rw [isFirst] at nonzero
      exact .inr nonzero
  obtain ⟨blankBefore, signed, whole, blankAfter⟩ := counts
  rw [List.append_assoc] at starts
  cases eq_nil_of_blank blankBefore starts
  rw [List.nil_append, List.append_assoc] at sign
  have stops := takeWhile_after_number whole blankAfter
  exact Nat.not_lt.mpr (length_takeWhile_signed signed short stops sign nonzero) long

theorem readIntegerText_eq_ok_iff {text : List Char} {number : Int} :
    readIntegerText text = .ok number ↔
      IntegerText text number ∧ number.natAbs < 10 ^ maxPrintedDigits := by
  constructor
  · intro read
    unfold readIntegerText at read
    split at read
    next =>
      split at read
      next number' found =>
        cases read
        obtain ⟨plain, spelled, readPlain⟩ := Option.map_eq_some_iff.mp found
        refine ⟨integerText_of_plainSpelling? spelled readPlain, ?_⟩
        exact (integerText_of_readPlainInteger readPlain).2
      next => cases read
    next => exact integerText_of_readPlainInteger read
  · rintro ⟨counts, short⟩
    obtain ⟨plain, spelled, readPlain⟩ := plainSpelling?_of_integerText counts short
    cases read : readPlainInteger text with
    | ok number' =>
        -- A text that is plain already is read like its plain spelling.
        obtain ⟨counts', short'⟩ := integerText_of_readPlainInteger read
        obtain ⟨plain', spelled', readPlain'⟩ := plainSpelling?_of_integerText counts' short'
        cases spelled.symm.trans spelled'
        cases readPlain.symm.trans readPlain'
        rw [readIntegerText, read]
    | error complaint =>
        have notText : complaint = .notIntegerText := by
          refine (error_of_readPlainInteger read).resolve_right fun long => ?_
          rw [long.1] at read
          exact readPlainInteger_not_tooLong counts short read
        subst notText
        simp only [readIntegerText, read, spelled, Option.map_some, readPlain]

end InDoubt.Settings
