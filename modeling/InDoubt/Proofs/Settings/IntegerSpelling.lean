import Mathlib.Algebra.Order.Ring.Nat
import Mathlib.Data.List.TakeWhile
import InDoubt.Proofs.Flat.Spelling
import InDoubt.Settings.Reading

namespace InDoubt.Settings

open Flat (Decimal)

/-- Digits, between any two of which an underscore may stand. -/
inductive Grouped : List Char → List Char → Prop
  | last {digit : Char} (numeric : digit.isDigit = true) : Grouped [digit] [digit]
  | next {digit : Char} {spelled digits : List Char} (numeric : digit.isDigit = true)
      (rest : Grouped spelled digits) : Grouped (digit :: spelled) (digit :: digits)
  | apart {digit : Char} {spelled digits : List Char} (numeric : digit.isDigit = true)
      (rest : Grouped spelled digits) : Grouped (digit :: '_' :: spelled) (digit :: digits)

/-- Zeros in front of a number, the first of which any number of underscores may follow. -/
def Padding (padding : List Char) : Prop :=
  padding = [] ∨ ∃ rest, padding = '0' :: rest ∧ ∀ other ∈ rest, other = '0' ∨ other = '_'

def Optional (mark : Char) (text : List Char) : Prop := text = [] ∨ text = [mark]

/-- A whole number with its sign. A minus stands in front, or between zeros and the number; there an
underscore may follow it. -/
inductive Signed : List Char → Int → Prop
  | plus {sign padding spelled digits : List Char} {size : Nat} (plus : Optional '+' sign)
      (padded : Padding padding) (grouped : Grouped spelled digits)
      (decimal : Decimal digits size) : Signed (sign ++ (padding ++ spelled)) size
  | minus {padding spelled digits : List Char} {size : Nat} (padded : Padding padding)
      (grouped : Grouped spelled digits) (decimal : Decimal digits size) :
      Signed ('-' :: (padding ++ spelled)) (-size)
  | lateMinus {sign padding gap spelled digits : List Char} {size : Nat} (plus : Optional '+' sign)
      (padded : Padding padding) (present : padding ≠ []) (optional : Optional '_' gap)
      (grouped : Grouped spelled digits) (decimal : Decimal digits size) :
      Signed (sign ++ (padding ++ '-' :: (gap ++ spelled))) (-size)

/-! ### Plain numbers -/

theorem numeric_of_decimal {digits : List Char} {size : Nat} (decimal : Decimal digits size) :
    ∀ digit ∈ digits, digit.isDigit = true := by
  rw [decimal.eq_toDigits]
  exact fun digit member => Nat.isDigit_of_mem_toDigits (by decide) (by decide) member

theorem length_le_iff_of_decimal {digits : List Char} {size : Nat} (decimal : Decimal digits size) :
    digits.length ≤ maxPrintedDigits ↔ size < 10 ^ maxPrintedDigits := by
  rw [decimal.eq_toDigits]
  exact Nat.length_toDigits_le_iff (by decide) (by decide)

theorem decimal_of_first {first : Char} {rest : List Char} (nonzero : isNonzeroDigit first = true)
    (numeric : ∀ digit ∈ rest, digit.isDigit = true) :
    Decimal (first :: rest) (Nat.ofDigitChars 10 (first :: rest) 0) := by
  simp only [isNonzeroDigit, Bool.and_eq_true, bne_iff_ne] at nonzero
  exact ⟨.inr ⟨first, rest, rfl, nonzero.1, nonzero.2, numeric⟩, rfl⟩

def signed (negative : Bool) (size : Nat) : Int := if negative then -size else size

def readUnsigned (negative : Bool) (unsigned : List Char) : Except Complaint Int :=
  let digits := unsigned.takeWhile Char.isDigit
  if unsigned = ['0'] then .ok 0
  else if !unsigned.head?.any isNonzeroDigit then .error .notIntegerText
  else if maxPrintedDigits < digits.length then .error .integerTooLong
  else if digits.length < unsigned.length then .error .notIntegerText
  else .ok (signed negative (Nat.ofDigitChars 10 digits 0))

theorem readPlainInteger_minus (unsigned : List Char) :
    readPlainInteger ('-' :: unsigned) = readUnsigned true unsigned := rfl

theorem readPlainInteger_of_noMinus {text : List Char} (noMinus : text.head? ≠ some '-') :
    readPlainInteger text = readUnsigned false text := by
  unfold readPlainInteger
  split
  next found =>
    split at found
    next rest => exact absurd rfl noMinus
    next => cases found; rfl

theorem readUnsigned_of_decimal (negative : Bool) {digits : List Char} {size : Nat}
    (decimal : Decimal digits size) (short : size < 10 ^ maxPrintedDigits) :
    readUnsigned negative digits = .ok (signed negative size) := by
  have shortDigits := (length_le_iff_of_decimal decimal).mpr short
  have numeric := numeric_of_decimal decimal
  obtain ⟨rfl | ⟨first, rest, rfl, firstNumeric, nonzero, restNumeric⟩, same⟩ := decimal
  · subst same
    cases negative with
    | true => rfl
    | false => rfl
  · have all : (first :: rest).takeWhile Char.isDigit = first :: rest :=
      List.takeWhile_eq_self_iff.mpr numeric
    have more : first :: rest ≠ ['0'] := fun zero => nonzero (List.cons.inj zero).1
    simp only [readUnsigned, all, same]
    rw [if_neg more, if_neg (by simp [isNonzeroDigit, firstNumeric, nonzero]),
      if_neg (Nat.not_lt.mpr shortDigits), if_neg (Nat.lt_irrefl _)]

theorem decimal_of_readUnsigned {negative : Bool} {unsigned : List Char} {number : Int}
    (read : readUnsigned negative unsigned = .ok number) :
    ∃ size, Decimal unsigned size ∧ size < 10 ^ maxPrintedDigits ∧
      number = signed negative size := by
  unfold readUnsigned at read
  simp only at read
  split at read
  next zero =>
    cases read
    refine ⟨0, ⟨.inl zero, by rw [zero]; rfl⟩, Nat.pow_pos (by decide), ?_⟩
    cases negative with
    | true => rfl
    | false => rfl
  next =>
    split at read
    next => cases read
    next someDigit =>
      split at read
      next => cases read
      next short =>
        split at read
        next => cases read
        next all =>
          cases read
          cases unsigned with
          | nil => simp at someDigit
          | cons first rest =>
              have whole : (first :: rest).takeWhile Char.isDigit = first :: rest :=
                (List.takeWhile_prefix Char.isDigit).eq_of_length_le (Nat.not_lt.mp all)
              rw [whole] at short ⊢
              have numeric := List.takeWhile_eq_self_iff.mp whole
              have decimal := decimal_of_first (by simpa using someDigit)
                fun digit member => numeric digit (List.mem_cons_of_mem _ member)
              exact ⟨_, decimal, (length_le_iff_of_decimal decimal).mp (Nat.not_lt.mp short), rfl⟩

/-! ### Underscores between digits -/

theorem grouped_self {digits : List Char} (some : digits ≠ [])
    (numeric : ∀ digit ∈ digits, digit.isDigit = true) : Grouped digits digits := by
  induction digits with
  | nil => exact absurd rfl some
  | cons first rest restGrouped =>
      obtain ⟨firstNumeric, restNumeric⟩ := List.forall_mem_cons.mp numeric
      cases rest with
      | nil => exact .last firstNumeric
      | cons second others => exact .next firstNumeric (restGrouped (by simp) restNumeric)

theorem ne_of_isDigit {digit other : Char} (numeric : digit.isDigit = true)
    (noDigit : other.isDigit = false) : digit ≠ other := by
  intro same
  subst same
  cases numeric.symm.trans noDigit

theorem ne_underscore_of_isDigit {digit : Char} (numeric : digit.isDigit = true) : digit ≠ '_' :=
  ne_of_isDigit numeric rfl

theorem filter_cons_of_isDigit {digit : Char} (numeric : digit.isDigit = true) (rest : List Char) :
    (digit :: rest).filter (· != '_') = digit :: rest.filter (· != '_') :=
  List.filter_cons_of_pos (by simpa using ne_underscore_of_isDigit numeric)

theorem head_of_grouped {spelled digits : List Char} (grouped : Grouped spelled digits) :
    ∃ first rest, spelled = first :: rest ∧ first.isDigit = true ∧ digits.head? = some first := by
  cases grouped with
  | last numeric => exact ⟨_, _, rfl, numeric, rfl⟩
  | next numeric _ => exact ⟨_, _, rfl, numeric, rfl⟩
  | apart numeric _ => exact ⟨_, _, rfl, numeric, rfl⟩

theorem underscoresApart_cons {first : Char} {rest : List Char} (other : first ≠ '_') :
    underscoresApart (first :: rest) = underscoresApart rest := by
  rw [underscoresApart]
  · intro same
    exact absurd same other
  · intro others same
    exact absurd same other

theorem underscoresApart_underscore {first : Char} {rest : List Char} (other : first ≠ '_') :
    underscoresApart ('_' :: first :: rest) = underscoresApart (first :: rest) := by
  rw [underscoresApart]
  · simp
  · intro others _ same
    exact other (List.cons.inj same).1

theorem underscoresApart_of_grouped {spelled digits : List Char}
    (grouped : Grouped spelled digits) :
    underscoresApart spelled = true ∧ spelled.filter (· != '_') = digits := by
  induction grouped with
  | last numeric =>
      rw [underscoresApart_cons (ne_underscore_of_isDigit numeric), filter_cons_of_isDigit numeric]
      exact ⟨rfl, rfl⟩
  | next numeric _ restApart =>
      rw [underscoresApart_cons (ne_underscore_of_isDigit numeric), filter_cons_of_isDigit numeric,
        restApart.2]
      exact ⟨restApart.1, rfl⟩
  | apart numeric rest restApart =>
      obtain ⟨first, others, same, firstNumeric, _⟩ := head_of_grouped rest
      rw [underscoresApart_cons (ne_underscore_of_isDigit numeric), filter_cons_of_isDigit numeric,
        List.filter_cons_of_neg (by simp), restApart.2]
      refine ⟨?_, rfl⟩
      rw [same] at restApart ⊢
      rw [underscoresApart_underscore (ne_underscore_of_isDigit firstNumeric)]
      exact restApart.1

theorem grouped_of_underscoresApart {text : List Char} (apart : underscoresApart text = true)
    (numeric : ∀ digit ∈ text.filter (· != '_'), digit.isDigit = true) :
    text = [] ∨ ∃ gap spelled, Optional '_' gap ∧ text = gap ++ spelled ∧
      Grouped spelled (text.filter (· != '_')) := by
  induction text with
  | nil => exact .inl rfl
  | cons first rest restGrouped =>
      right
      by_cases underscore : first = '_'
      · subst underscore
        rw [List.filter_cons_of_neg (by simp)] at numeric ⊢
        cases rest with
        | nil => cases apart
        | cons second others =>
            by_cases double : second = '_'
            · subst double
              cases apart
            · rw [underscoresApart_underscore double] at apart
              rcases restGrouped apart numeric with
                nothing | ⟨gap, spelled, rfl | rfl, same, grouped⟩
              · cases nothing
              · exact ⟨['_'], spelled, .inr rfl, by rw [same]; rfl, grouped⟩
              · exact absurd (List.cons.inj same).1 double
      · rw [underscoresApart_cons underscore] at apart
        rw [List.filter_cons_of_pos (by simpa using underscore)] at numeric ⊢
        obtain ⟨firstNumeric, restNumeric⟩ := List.forall_mem_cons.mp numeric
        rcases restGrouped apart restNumeric with rfl | ⟨gap, spelled, rfl | rfl, same, grouped⟩
        · exact ⟨[], [first], .inl rfl, rfl, .last firstNumeric⟩
        · rw [← show rest = spelled from same] at grouped
          exact ⟨[], first :: rest, .inl rfl, rfl, .next firstNumeric grouped⟩
        · refine ⟨[], first :: rest, .inl rfl, rfl, ?_⟩
          rw [same] at grouped ⊢
          exact .apart firstNumeric grouped

/-! ### Zeros in front -/

theorem padding_of_concat {rest front : List Char} {last : Char}
    (padded : ∀ other ∈ rest, other = '0' ∨ other = '_') (same : '0' :: rest = front ++ [last]) :
    Padding front ∧ last ≠ '-' := by
  have zeros : ∀ other ∈ front ++ [last], other = '0' ∨ other = '_' := by
    rw [← same]
    exact List.forall_mem_cons.mpr ⟨.inl rfl, padded⟩
  constructor
  · cases front with
    | nil => exact .inl rfl
    | cons first others =>
        obtain ⟨rfl, rfl⟩ := List.cons.inj same
        exact .inr ⟨others, rfl, fun other member => padded other (List.mem_append_left _ member)⟩
  · rcases zeros last (List.mem_append_right _ List.mem_cons_self) with rfl | rfl
    · decide
    · decide

theorem withoutLeadingZeros?_zero_spec {rest core : List Char}
    (found : withoutLeadingZeros? ('0' :: rest) = some core) :
    ∃ padding, Padding padding ∧ '0' :: rest = padding ++ core ∧
      (core.head? = some '-' → padding ≠ []) := by
  have parts := List.takeWhile_append_dropWhile
    (p := fun character => decide (character = '0') || decide (character = '_')) (l := rest)
  have padded : ∀ other ∈ rest.takeWhile (fun character => decide (character = '0') ||
      decide (character = '_')), other = '0' ∨ other = '_' := fun other member => by
    simpa using List.mem_takeWhile_imp member
  rw [withoutLeadingZeros?] at found
  split at found
  next all =>
    rw [all, List.append_nil] at parts
    rw [parts] at padded
    obtain ⟨last, isLast, rfl⟩ := Option.map_eq_some_iff.mp found
    obtain ⟨front, same⟩ := List.getLast?_eq_some_iff.mp isLast
    obtain ⟨frontPadded, noMinus⟩ := padding_of_concat padded same
    exact ⟨front, frontPadded, same, fun minus => absurd (Option.some.inj minus) noMinus⟩
  next first others dropped =>
    split at found
    next =>
      cases found
      rw [dropped] at parts
      refine ⟨_, .inr ⟨_, rfl, padded⟩, by rw [List.cons_append, parts], ?_⟩
      exact fun _ => List.cons_ne_nil _ _
    next => cases found

/-- What is left is a zero, or starts with another digit, or with a minus behind the zeros, or is
nothing that could be read. -/
theorem withoutLeadingZeros?_spec {unsigned core : List Char}
    (found : withoutLeadingZeros? unsigned = some core) :
    ∃ padding, Padding padding ∧ unsigned = padding ++ core ∧
      (core.head? = some '-' → padding ≠ []) := by
  cases unsigned with
  | nil => cases found
  | cons first rest =>
      by_cases zero : first = '0'
      · subst zero
        exact withoutLeadingZeros?_zero_spec found
      · rw [withoutLeadingZeros?] at found
        · split at found
          next nonzero =>
            cases found
            refine ⟨[], .inl rfl, rfl, ?_⟩
            intro minus
            cases minus
            cases nonzero
          next => cases found
        · exact fun same => zero same

theorem withoutLeadingZeros?_padding {padding rest : List Char} {first : Char}
    (padded : Padding padding)
    (starts : isNonzeroDigit first = true ∨ first = '-' ∧ padding ≠ []) :
    withoutLeadingZeros? (padding ++ first :: rest) = some (first :: rest) := by
  obtain rfl | ⟨zeros, rfl, zero⟩ := padded
  · have nonzero : isNonzeroDigit first = true := starts.resolve_right fun minus => minus.2 rfl
    rw [List.nil_append, withoutLeadingZeros?, if_pos nonzero]
    intro same
    subst same
    cases nonzero
  · have passed : ∀ other ∈ zeros, (decide (other = '0') || decide (other = '_')) = true :=
      fun other member => by simpa using zero other member
    have stops : (decide (first = '0') || decide (first = '_')) = false := by
      rcases starts with nonzero | ⟨rfl, _⟩
      · simp only [isNonzeroDigit, Bool.and_eq_true, bne_iff_ne] at nonzero
        simp [nonzero.2, ne_underscore_of_isDigit nonzero.1]
      · rfl
    have taken : (isNonzeroDigit first || decide (first = '-')) = true := by
      rcases starts with nonzero | ⟨rfl, _⟩
      · rw [nonzero, Bool.true_or]
      · rfl
    rw [List.cons_append, withoutLeadingZeros?, List.dropWhile_append_of_pos passed,
      List.dropWhile_cons_of_neg (by simp [stops])]
    simp only [if_pos taken]

theorem withoutLeadingZeros?_zero {padding : List Char} (padded : Padding padding) :
    withoutLeadingZeros? (padding ++ ['0']) = some ['0'] := by
  obtain rfl | ⟨zeros, rfl, zero⟩ := padded
  · rfl
  · have all : (zeros ++ ['0']).dropWhile (fun character => decide (character = '0') ||
        decide (character = '_')) = [] := by
      rw [List.dropWhile_eq_nil_iff]
      intro other member
      rcases List.mem_append.mp member with member | last
      · simpa using zero other member
      · cases List.mem_singleton.mp last
        rfl
    rw [List.cons_append, withoutLeadingZeros?, all]
    simp only [← List.cons_append, List.getLast?_concat, Option.map_some]

theorem withoutLeadingZeros?_grouped {padding spelled digits : List Char} {size : Nat}
    (padded : Padding padding) (grouped : Grouped spelled digits) (decimal : Decimal digits size) :
    withoutLeadingZeros? (padding ++ spelled) = some spelled := by
  obtain ⟨rfl | ⟨first, rest, rfl, firstNumeric, nonzero, _⟩, _⟩ := decimal
  · have zero : spelled = ['0'] := by
      cases grouped with
      | last numeric => rfl
      | next numeric rest => cases rest
      | apart numeric rest => cases rest
    rw [zero]
    exact withoutLeadingZeros?_zero padded
  · obtain ⟨head, others, rfl, _, same⟩ := head_of_grouped grouped
    cases same
    have firstNonzero : isNonzeroDigit first = true := by
      simp [isNonzeroDigit, firstNumeric, nonzero]
    exact withoutLeadingZeros?_padding padded (.inl firstNonzero)

/-! ### Underscores taken out -/

theorem withoutUnderscores_grouped {spelled digits : List Char} (grouped : Grouped spelled digits) :
    withoutUnderscores spelled = digits := by
  obtain ⟨apart, filtered⟩ := underscoresApart_of_grouped grouped
  obtain ⟨first, rest, rfl, numeric, _⟩ := head_of_grouped grouped
  rw [withoutUnderscores, if_pos, filtered]
  simp [apart, ne_underscore_of_isDigit numeric]

theorem withoutUnderscores_minus {gap spelled digits : List Char} (optional : Optional '_' gap)
    (grouped : Grouped spelled digits) :
    withoutUnderscores ('-' :: (gap ++ spelled)) = '-' :: digits := by
  obtain ⟨apart, filtered⟩ := underscoresApart_of_grouped grouped
  obtain ⟨first, rest, rfl, numeric, _⟩ := head_of_grouped grouped
  have apartGap : underscoresApart (gap ++ first :: rest) = true := by
    obtain rfl | rfl := optional
    · exact apart
    · exact (underscoresApart_underscore (ne_underscore_of_isDigit numeric)).trans apart
  have filteredGap : (gap ++ first :: rest).filter (· != '_') = digits := by
    rw [List.filter_append, filtered]
    obtain rfl | rfl := optional
    · rfl
    · rfl
  rw [withoutUnderscores, underscoresApart_cons (by decide), if_pos (by simp [apartGap]),
    List.filter_cons_of_pos (by decide), filteredGap]

theorem grouped_of_decimal {core : List Char} {size : Nat}
    (decimal : Decimal (withoutUnderscores core) size) :
    Grouped core (withoutUnderscores core) := by
  have numeric := numeric_of_decimal decimal
  have nonempty : withoutUnderscores core ≠ [] := by
    rw [decimal.eq_toDigits]
    exact Nat.toDigits_ne_nil
  unfold withoutUnderscores at numeric nonempty ⊢
  split at numeric
  next apart =>
    rw [Bool.and_eq_true, bne_iff_ne] at apart
    rw [if_pos (by simpa using apart)] at nonempty ⊢
    rcases grouped_of_underscoresApart apart.2 numeric with
      rfl | ⟨gap, spelled, rfl | rfl, same, grouped⟩
    · exact absurd rfl nonempty
    · rwa [← show core = spelled from same] at grouped
    · exact absurd (by rw [same]; rfl) apart.1
  next notApart =>
    rw [if_neg notApart] at nonempty ⊢
    exact grouped_self nonempty numeric

theorem grouped_of_minus {core digits : List Char} {size : Nat}
    (found : withoutUnderscores core = '-' :: digits) (decimal : Decimal digits size) :
    ∃ gap spelled, Optional '_' gap ∧ core = '-' :: (gap ++ spelled) ∧ Grouped spelled digits := by
  have numeric := numeric_of_decimal decimal
  have nonempty : digits ≠ [] := by
    rw [decimal.eq_toDigits]
    exact Nat.toDigits_ne_nil
  unfold withoutUnderscores at found
  split at found
  next apart =>
    rw [Bool.and_eq_true, bne_iff_ne] at apart
    cases core with
    | nil => cases found
    | cons first rest =>
        have noUnderscore : first ≠ '_' := fun same => apart.1 (by rw [same]; rfl)
        rw [List.filter_cons_of_pos (by simpa using noUnderscore)] at found
        obtain ⟨rfl, rfl⟩ := List.cons.inj found
        rw [underscoresApart_cons noUnderscore] at apart
        rcases grouped_of_underscoresApart apart.2 numeric with
          rfl | ⟨gap, spelled, optional, same, grouped⟩
        · exact absurd rfl nonempty
        · exact ⟨gap, spelled, optional, by rw [same], grouped⟩
  next => exact ⟨[], digits, .inl rfl, found, grouped_self nonempty numeric⟩

/-! ### The plain spelling -/

def plainBody? (body : List Char) : Option (List Char) := do
  let (sign, unsigned) := match body with
    | '-' :: rest => (['-'], rest)
    | '+' :: rest => ([], rest)
    | rest => ([], rest)
  some (sign ++ withoutUnderscores (← withoutLeadingZeros? unsigned))

theorem plainSpelling?_eq (text : List Char) :
    plainSpelling? text = plainBody? (withoutFraction (trimmed text)) := rfl

theorem plainBody?_minus (unsigned : List Char) :
    plainBody? ('-' :: unsigned) =
      (withoutLeadingZeros? unsigned).map fun core => '-' :: withoutUnderscores core := by
  change (withoutLeadingZeros? unsigned).bind
    (fun core => some ('-' :: withoutUnderscores core)) = _
  cases withoutLeadingZeros? unsigned with
  | none => rfl
  | some core => rfl

theorem plainBody?_plus (unsigned : List Char) :
    plainBody? ('+' :: unsigned) = (withoutLeadingZeros? unsigned).map withoutUnderscores := by
  change (withoutLeadingZeros? unsigned).bind (fun core => some (withoutUnderscores core)) = _
  cases withoutLeadingZeros? unsigned with
  | none => rfl
  | some core => rfl

theorem plainBody?_unsigned {unsigned : List Char} (noMinus : unsigned.head? ≠ some '-')
    (noPlus : unsigned.head? ≠ some '+') :
    plainBody? unsigned = (withoutLeadingZeros? unsigned).map withoutUnderscores := by
  rw [plainBody?]
  · cases withoutLeadingZeros? unsigned with
    | none => rfl
    | some core => rfl
  · rintro rest rfl
    exact noMinus rfl
  · rintro rest rfl
    exact noPlus rfl

theorem signed_of_unsigned {sign unsigned core : List Char} {number : Int}
    (plus : Optional '+' sign) (found : withoutLeadingZeros? unsigned = some core)
    (read : readPlainInteger (withoutUnderscores core) = .ok number) :
    Signed (sign ++ unsigned) number := by
  obtain ⟨padding, padded, rfl, present⟩ := withoutLeadingZeros?_spec found
  by_cases minus : (withoutUnderscores core).head? = some '-'
  · obtain ⟨digits, same⟩ := List.head?_eq_some_iff.mp minus
    rw [same, readPlainInteger_minus] at read
    obtain ⟨size, decimal, _, rfl⟩ := decimal_of_readUnsigned read
    obtain ⟨gap, spelled, optional, rfl, grouped⟩ := grouped_of_minus same decimal
    exact .lateMinus plus padded (present rfl) optional grouped decimal
  · rw [readPlainInteger_of_noMinus minus] at read
    obtain ⟨size, decimal, _, rfl⟩ := decimal_of_readUnsigned read
    exact .plus plus padded (grouped_of_decimal decimal) decimal

theorem signed_of_plainBody? {body plain : List Char} {number : Int}
    (found : plainBody? body = some plain) (read : readPlainInteger plain = .ok number) :
    Signed body number := by
  by_cases minus : body.head? = some '-'
  · obtain ⟨unsigned, rfl⟩ := List.head?_eq_some_iff.mp minus
    rw [plainBody?_minus] at found
    obtain ⟨core, isCore, rfl⟩ := Option.map_eq_some_iff.mp found
    obtain ⟨padding, padded, rfl, _⟩ := withoutLeadingZeros?_spec isCore
    rw [readPlainInteger_minus] at read
    obtain ⟨size, decimal, _, rfl⟩ := decimal_of_readUnsigned read
    exact .minus padded (grouped_of_decimal decimal) decimal
  · by_cases plus : body.head? = some '+'
    · obtain ⟨unsigned, rfl⟩ := List.head?_eq_some_iff.mp plus
      rw [plainBody?_plus] at found
      obtain ⟨core, isCore, rfl⟩ := Option.map_eq_some_iff.mp found
      exact signed_of_unsigned (.inr rfl : Optional '+' ['+']) isCore read
    · rw [plainBody?_unsigned minus plus] at found
      obtain ⟨core, isCore, rfl⟩ := Option.map_eq_some_iff.mp found
      exact signed_of_unsigned (.inl rfl) isCore read

theorem head_of_padded {padding : List Char} {first : Char} (padded : Padding padding)
    (starts : padding = [] → first.isDigit = true) (rest : List Char) :
    ∃ digit, (padding ++ first :: rest).head? = some digit ∧ digit.isDigit = true := by
  obtain rfl | ⟨zeros, rfl, _⟩ := padded
  · exact ⟨first, rfl, starts rfl⟩
  · exact ⟨'0', rfl, rfl⟩

theorem plainBody?_of_optional {sign unsigned : List Char} (plus : Optional '+' sign)
    (starts : ∃ digit, unsigned.head? = some digit ∧ digit.isDigit = true) :
    plainBody? (sign ++ unsigned) = (withoutLeadingZeros? unsigned).map withoutUnderscores := by
  obtain rfl | rfl := plus
  · obtain ⟨digit, head, numeric⟩ := starts
    refine plainBody?_unsigned ?_ ?_
    · rw [List.nil_append, head, ne_eq, Option.some_inj]
      exact ne_of_isDigit numeric rfl
    · rw [List.nil_append, head, ne_eq, Option.some_inj]
      exact ne_of_isDigit numeric rfl
  · exact plainBody?_plus unsigned

theorem plainBody?_of_signed {body : List Char} {number : Int} (signed : Signed body number)
    (short : number.natAbs < 10 ^ maxPrintedDigits) :
    ∃ plain, plainBody? body = some plain ∧ readPlainInteger plain = .ok number := by
  cases signed with
  | plus plus padded grouped decimal =>
      rename_i sign padding spelled digits size
      have found := withoutLeadingZeros?_grouped padded grouped decimal
      obtain ⟨first, rest, rfl, numeric, head⟩ := head_of_grouped grouped
      refine ⟨digits, ?_, ?_⟩
      · rw [plainBody?_of_optional plus (head_of_padded padded (fun _ => numeric) rest), found,
          Option.map_some, withoutUnderscores_grouped grouped]
      · rw [readPlainInteger_of_noMinus]
        · exact readUnsigned_of_decimal false decimal short
        · rw [head, ne_eq, Option.some_inj]
          exact ne_of_isDigit numeric rfl
  | minus padded grouped decimal =>
      rename_i padding spelled digits size
      rw [Int.natAbs_neg] at short
      refine ⟨'-' :: digits, ?_, readUnsigned_of_decimal true decimal short⟩
      rw [plainBody?_minus, withoutLeadingZeros?_grouped padded grouped decimal,
        Option.map_some, withoutUnderscores_grouped grouped]
  | lateMinus plus padded present optional grouped decimal =>
      rename_i sign padding gap spelled digits size
      rw [Int.natAbs_neg] at short
      refine ⟨'-' :: digits, ?_, readUnsigned_of_decimal true decimal short⟩
      rw [plainBody?_of_optional plus (head_of_padded padded (fun none => absurd none present) _),
        withoutLeadingZeros?_padding padded (.inr ⟨rfl, present⟩), Option.map_some,
        withoutUnderscores_minus optional grouped]

end InDoubt.Settings
