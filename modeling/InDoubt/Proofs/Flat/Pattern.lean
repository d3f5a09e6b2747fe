import Mathlib.Data.List.Basic
import InDoubt.Proofs.Flat.Fields
import InDoubt.Proofs.Text.Pattern

/-!
What the pattern of flat texts matches. A text, whole or broken, matches exactly if it can be
divided into digits and two parts without a separator. That is possible in one way only, so the
groups hold just these parts, and a whole text is given the shape that its fields have.
-/

namespace InDoubt.Flat

open Text (CharacterSet Groups Pattern Way)

structure Division where
  digits : List Nat
  gtrid : List Nat
  bqual : List Nat
  deriving DecidableEq, Repr

namespace Division

def join (division : Division) : List Nat :=
  division.digits ++ separator.toNat :: (division.gtrid ++ separator.toNat :: division.bqual)

def groups (division : Division) : Groups :=
  [(1, division.digits), (2, division.gtrid), (3, division.bqual)]

@[simp] theorem intercalate_groups (division : Division) :
    [separator.toNat].intercalate (division.groups.map Prod.snd) = division.join := by
  simp [groups, join, List.intercalate]

/-- The parts make up the text. There are digits, those of ASCII alone, and no separator stands in
the other two parts, which may hold anything else. -/
structure Divides (division : Division) (codes : List Nat) : Prop where
  joined : division.join = codes
  nonempty : division.digits ≠ []
  numeric : ∀ code ∈ division.digits, 0x30 ≤ code ∧ code ≤ 0x39
  gtridClean : separator.toNat ∉ division.gtrid
  bqualClean : separator.toNat ∉ division.bqual

instance (division : Division) (codes : List Nat) : Decidable (division.Divides codes) :=
  decidable_of_iff
    (division.join = codes ∧ division.digits ≠ [] ∧
      (∀ code ∈ division.digits, 0x30 ≤ code ∧ code ≤ 0x39) ∧
      separator.toNat ∉ division.gtrid ∧ separator.toNat ∉ division.bqual)
    ⟨fun ⟨joined, nonempty, numeric, gtridClean, bqualClean⟩ =>
      ⟨joined, nonempty, numeric, gtridClean, bqualClean⟩,
     fun divides => ⟨divides.joined, divides.nonempty, divides.numeric, divides.gtridClean,
      divides.bqualClean⟩⟩

variable {division : Division} {codes : List Nat}

theorem Divides.digitsClean (divides : division.Divides codes) :
    separator.toNat ∉ division.digits := by
  intro member
  have bounds := divides.numeric _ member
  revert bounds
  decide

theorem Divides.unique {other : Division} (divides : division.Divides codes)
    (otherDivides : other.Divides codes) : other = division := by
  have same : other.join = division.join := otherDivides.joined.trans divides.joined.symm
  obtain ⟨digitsSame, restSame⟩ :=
    front_eq_of_append_cons otherDivides.digitsClean divides.digitsClean same
  obtain ⟨gtridSame, bqualSame⟩ :=
    front_eq_of_append_cons otherDivides.gtridClean divides.gtridClean restSame
  calc
    other = ⟨other.digits, other.gtrid, other.bqual⟩ := rfl
    _ = ⟨division.digits, division.gtrid, division.bqual⟩ := by
      rw [digitsSame, gtridSame, bqualSame]

theorem Divides.extended {more : List Nat} (divides : division.Divides codes)
    (clean : separator.toNat ∉ more) :
    { division with bqual := division.bqual ++ more }.Divides (codes ++ more) where
  joined := by simp [join, ← divides.joined]
  nonempty := divides.nonempty
  numeric := divides.numeric
  gtridClean := divides.gtridClean
  bqualClean := by
    rw [List.mem_append, not_or]
    exact ⟨divides.bqualClean, clean⟩

end Division

theorem admits_asciiDigits_iff {code : Nat} :
    CharacterSet.asciiDigits.admits code = true ↔ 0x30 ≤ code ∧ code ≤ 0x39 := by
  simp [CharacterSet.admits]

theorem admits_allBut_iff {excluded : Nat} {part : List Nat} :
    (∀ code ∈ part, (CharacterSet.allBut excluded).admits code = true) ↔ excluded ∉ part := by
  simp only [CharacterSet.admits, decide_eq_true_iff]
  constructor
  · intro others member
    exact others excluded member rfl
  · rintro absent code member rfl
    exact absent member

theorem mem_ways_pattern_iff {codes : List Nat} {way : Way} :
    way ∈ pattern.ways true codes ∧ way.rest = [] ↔
      ∃ division : Division, division.Divides codes ∧ way = ⟨codes, [], division.groups⟩ := by
  constructor
  · rintro ⟨member, whole⟩
    obtain ⟨digits, fromFirst, rfl, someDigits, numeric, _, firstMember, rfl⟩ :=
      Pattern.mem_ways_group_then.mp (Pattern.mem_ways_start_then.mp member)
    obtain ⟨fromGtrid, rfl, _, gtridMember, rfl⟩ := Pattern.mem_ways_only_then.mp firstMember
    obtain ⟨gtrid, fromSecond, rfl, -, gtridAdmitted, _, secondMember, rfl⟩ :=
      Pattern.mem_ways_group_then.mp gtridMember
    obtain ⟨fromBqual, rfl, _, bqualMember, rfl⟩ := Pattern.mem_ways_only_then.mp secondMember
    obtain ⟨bqual, remaining, rfl, -, bqualAdmitted, _, endingMember, rfl⟩ :=
      Pattern.mem_ways_group_then.mp bqualMember
    -- The end is also found before a last line break, but then that is left over.
    obtain ⟨-, rfl⟩ := Pattern.mem_ways_ending.mp endingMember
    cases whole
    have bqualWhole : bqual ++ [] = bqual := List.append_nil bqual
    rw [Way.nothing, bqualWhole]
    refine ⟨⟨digits, gtrid, bqual⟩, ?_, rfl⟩
    exact {
      joined := rfl
      nonempty := List.length_pos_iff.mp someDigits
      numeric := fun code codeMember => admits_asciiDigits_iff.mp (numeric code codeMember)
      gtridClean := admits_allBut_iff.mp gtridAdmitted
      bqualClean := admits_allBut_iff.mp bqualAdmitted }
  · rintro ⟨⟨digits, gtrid, bqual⟩, ⟨rfl, nonempty, numeric, gtridClean, bqualClean⟩, rfl⟩
    have digitsAdmitted : ∀ code ∈ digits, CharacterSet.asciiDigits.admits code = true :=
      fun code member => admits_asciiDigits_iff.mpr (numeric code member)
    refine ⟨Pattern.mem_ways_start_then.mpr ?_, rfl⟩
    refine Pattern.mem_ways_group_then.mpr ⟨digits, _, rfl, List.length_pos_iff.mpr nonempty,
      digitsAdmitted, ⟨_, [], _⟩, ?_, rfl⟩
    refine Pattern.mem_ways_only_then.mpr ⟨_, rfl, ⟨_, [], _⟩, ?_, rfl⟩
    refine Pattern.mem_ways_group_then.mpr ⟨gtrid, _, rfl, Nat.zero_le _,
      admits_allBut_iff.mpr gtridClean, ⟨_, [], _⟩, ?_, rfl⟩
    refine Pattern.mem_ways_only_then.mpr ⟨_, rfl, ⟨_, [], _⟩, ?_, rfl⟩
    refine Pattern.mem_ways_group_then.mpr ⟨bqual, [], List.append_nil bqual, Nat.zero_le _,
      admits_allBut_iff.mpr bqualClean, .nothing [], ?_, ?_⟩
    · exact Pattern.mem_ways_ending.mpr ⟨.inl rfl, rfl⟩
    · rw [Way.nothing, List.append_nil]

theorem wholeMatch?_pattern_iff {codes : List Nat} {found : Groups} :
    pattern.wholeMatch? codes = some found ↔
      ∃ division : Division, division.Divides codes ∧ division.groups = found := by
  constructor
  · intro matched
    obtain ⟨way, member, whole, rfl⟩ := Pattern.exists_way_of_wholeMatch? matched
    obtain ⟨division, divides, rfl⟩ := mem_ways_pattern_iff.mp ⟨member, whole⟩
    exact ⟨division, divides, rfl⟩
  · rintro ⟨division, divides, rfl⟩
    apply Pattern.wholeMatch?_of_agreement
    · exact ⟨_, mem_ways_pattern_iff.mpr ⟨division, divides, rfl⟩⟩
    · intro way member whole
      obtain ⟨other, otherDivides, rfl⟩ := mem_ways_pattern_iff.mp ⟨member, whole⟩
      rw [divides.unique otherDivides]

example : pattern.wholeMatch? ("1_a_b\n".toList.map Char.toNat) =
    some [(1, [0x31]), (2, [0x61]), (3, [0x62, Text.newline])] := by decide

example : pattern.wholeMatch? ("١_a_b".toList.map Char.toNat) = none := by decide

def Shape.division (shape : Shape) : Division :=
  ⟨shape.digits.map Char.toNat, shape.gtrid.map Char.toNat, shape.bqual.map Char.toNat⟩

@[simp] theorem Shape.join_division (shape : Shape) :
    shape.division.join = shape.join.map Char.toNat := by
  simp [division, Division.join, join]

theorem numeric_map_toNat_iff {characters : List Char} :
    (∀ code ∈ characters.map Char.toNat, 0x30 ≤ code ∧ code ≤ 0x39) ↔
      characters.all Char.isDigit = true := by
  rw [List.forall_mem_map, List.all_eq_true]
  exact forall₂_congr fun character _ => isDigit_iff.symm

theorem mem_map_toNat_iff {character : Char} {characters : List Char} :
    character.toNat ∈ characters.map Char.toNat ↔ character ∈ characters :=
  List.mem_map_of_injective fun _ _ => Char.toNat_inj.mp

theorem Shape.divides_division_iff {shape : Shape} {characters : List Char} :
    shape.division.Divides (characters.map Char.toNat) ↔ shape? characters = some shape := by
  have joined_iff : shape.division.join = characters.map Char.toNat ↔ shape.join = characters := by
    rw [join_division, List.map_inj_right fun _ _ => Char.toNat_inj.mp]
  rw [shape?_eq_some_iff]
  constructor
  · intro divides
    exact ⟨joined_iff.mp divides.joined, mt List.map_eq_nil_iff.mpr divides.nonempty,
      numeric_map_toNat_iff.mp divides.numeric, mt mem_map_toNat_iff.mpr divides.gtridClean,
      mt mem_map_toNat_iff.mpr divides.bqualClean⟩
  · rintro ⟨joined, nonempty, numeric, gtridClean, bqualClean⟩
    exact {
      joined := joined_iff.mpr joined
      nonempty := mt List.map_eq_nil_iff.mp nonempty
      numeric := numeric_map_toNat_iff.mpr numeric
      gtridClean := mt mem_map_toNat_iff.mp gtridClean
      bqualClean := mt mem_map_toNat_iff.mp bqualClean }

theorem Division.Divides.exists_shape {division : Division} {characters : List Char}
    (divides : division.Divides (characters.map Char.toNat)) :
    ∃ shape : Shape, shape.division = division := by
  obtain ⟨digits, rest, rfl, digitsSame, restSame⟩ := List.map_eq_append_iff.mp divides.joined.symm
  obtain ⟨_, rest, rfl, -, restSame⟩ := List.map_eq_cons_iff.mp restSame
  obtain ⟨gtrid, rest, rfl, gtridSame, restSame⟩ := List.map_eq_append_iff.mp restSame
  obtain ⟨_, bqual, rfl, -, bqualSame⟩ := List.map_eq_cons_iff.mp restSame
  exact ⟨⟨digits, gtrid, bqual⟩, by rw [Shape.division, digitsSame, gtridSame, bqualSame]⟩

theorem wholeMatch?_pattern_toNat (characters : List Char) :
    pattern.wholeMatch? (characters.map Char.toNat) =
      (shape? characters).map fun shape => shape.division.groups := by
  ext found
  rw [wholeMatch?_pattern_iff, Option.map_eq_some_iff]
  constructor
  · rintro ⟨division, divides, rfl⟩
    obtain ⟨shape, rfl⟩ := divides.exists_shape
    exact ⟨shape, Shape.divides_division_iff.mp divides, rfl⟩
  · rintro ⟨shape, matched, rfl⟩
    exact ⟨shape.division, Shape.divides_division_iff.mpr matched, rfl⟩

/-- The pattern matches a text, whole or broken, exactly if it can be divided. The groups then hold
the parts of the only division, so joined they are the text, and a line break at the end belongs to
the last of them. On whole texts the shape is the one that is found without the pattern. -/
theorem pattern_language (codes : List Nat) :
    ((pattern.wholeMatch? codes).isSome = true ↔ ∃ division : Division, division.Divides codes) ∧
      (∀ division : Division, division.Divides codes →
        pattern.wholeMatch? codes = some division.groups ∧
          (∀ other : Division, other.Divides codes → other = division) ∧
          pattern.wholeMatch? (codes ++ [Text.newline]) =
            some { division with bqual := division.bqual ++ [Text.newline] }.groups) ∧
      (∀ found, pattern.wholeMatch? codes = some found →
        [separator.toNat].intercalate (found.map Prod.snd) = codes) ∧
      (∀ characters : List Char, characters.map Char.toNat = codes →
        pattern.wholeMatch? codes =
          (shape? characters).map fun shape => shape.division.groups) := by
  refine ⟨?_, ?_, ?_, ?_⟩
  · rw [Option.isSome_iff_exists]
    constructor
    · rintro ⟨found, matched⟩
      obtain ⟨division, divides, -⟩ := wholeMatch?_pattern_iff.mp matched
      exact ⟨division, divides⟩
    · rintro ⟨division, divides⟩
      exact ⟨_, wholeMatch?_pattern_iff.mpr ⟨division, divides, rfl⟩⟩
  · intro division divides
    refine ⟨wholeMatch?_pattern_iff.mpr ⟨division, divides, rfl⟩,
      fun other otherDivides => divides.unique otherDivides, ?_⟩
    have clean : separator.toNat ∉ [Text.newline] := by decide
    exact wholeMatch?_pattern_iff.mpr ⟨_, divides.extended clean, rfl⟩
  · intro found matched
    obtain ⟨division, divides, rfl⟩ := wholeMatch?_pattern_iff.mp matched
    exact division.intercalate_groups.trans divides.joined
  · rintro characters rfl
    exact wholeMatch?_pattern_toNat characters

theorem pattern_language_broken_line :
    (Division.mk [0x31, 0x32] [0xd800] [0x62, 0x0a]).Divides
        [0x31, 0x32, 0x5f, 0xd800, 0x5f, 0x62, 0x0a] ∧
      pattern.wholeMatch? [0x31, 0x32, 0x5f, 0xd800, 0x5f, 0x62, 0x0a] =
        some [(1, [0x31, 0x32]), (2, [0xd800]), (3, [0x62, 0x0a])] := by
  have divides : (Division.mk [0x31, 0x32] [0xd800] [0x62, 0x0a]).Divides
      [0x31, 0x32, 0x5f, 0xd800, 0x5f, 0x62, 0x0a] := by decide
  obtain ⟨-, matched, -⟩ := pattern_language [0x31, 0x32, 0x5f, 0xd800, 0x5f, 0x62, 0x0a]
  exact ⟨divides, (matched _ divides).1⟩

end InDoubt.Flat
