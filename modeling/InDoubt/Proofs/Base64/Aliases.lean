import Mathlib.Algebra.Order.Ring.Nat
import Mathlib.Data.List.Basic
import InDoubt.Proofs.Base64.Canonical

/-!
Spellings that are read and yet may not be written. Reading drops the bits of the last symbol that
make up no whole byte, and is lax about padding after whole groups; two spellings of one text differ
in nothing else.
-/

namespace InDoubt.Base64

@[elab_as_elim]
theorem groups {motive : List Sextet → Prop} (nil : motive []) (one : ∀ first, motive [first])
    (two : ∀ first second, motive [first, second])
    (three : ∀ first second third, motive [first, second, third])
    (four : ∀ first second third fourth rest, motive rest →
      motive (first :: second :: third :: fourth :: rest)) :
    (data : List Sextet) → motive data
  | [] => nil
  | [first] => one first
  | [first, second] => two first second
  | [first, second, third] => three first second third
  | first :: second :: third :: fourth :: rest =>
      four first second third fourth rest (groups nil one two three four rest)

theorem length_bytes (data : List Sextet) : (bytes data).length = 6 * data.length / 8 := by
  induction data using groups with
  | nil => rfl
  | one first => simp [bytes]
  | two first second => simp [bytes]
  | three first second third => simp [bytes]
  | four first second third fourth rest counted =>
      simp only [bytes, List.length_cons, counted]
      omega

theorem toNat_byte {value : Nat} (small : value < 256) : (byte value).toNat = value := by
  rw [byte, UInt8.toNat_ofNat', Nat.mod_eq_of_lt small]

def clear (count : Nat) (sextet : Sextet) : Sextet :=
  ⟨sextet.val / 2 ^ count * 2 ^ count,
    Nat.lt_of_le_of_lt (Nat.div_mul_le_self sextet.val (2 ^ count)) sextet.isLt⟩

/-- The sextets with the bits of the last one cleared that make up no whole byte. -/
def cleared : List Sextet → List Sextet
  | first :: second :: third :: fourth :: rest =>
      first :: second :: third :: fourth :: cleared rest
  | [first, second, third] => [first, second, clear 2 third]
  | [first, second] => [first, clear 4 second]
  | short => short

theorem high_byte (first second : Sextet) :
    high (byte (first.val * 4 + second.val / 16)) = first := by
  apply Fin.ext
  simp only [high]
  rw [toNat_byte (by omega)]
  omega

theorem middle_bytes (first second third : Sextet) :
    middle (byte (first.val * 4 + second.val / 16)) (byte (second.val % 16 * 16 + third.val / 4)) =
      second := by
  apply Fin.ext
  simp only [middle]
  rw [toNat_byte (by omega), toNat_byte (by omega)]
  omega

theorem middle_byte (first second : Sextet) :
    middle (byte (first.val * 4 + second.val / 16)) 0 = clear 4 second := by
  apply Fin.ext
  simp only [middle, clear, UInt8.toNat_zero]
  rw [toNat_byte (by omega)]
  omega

theorem lower_bytes (second third fourth : Sextet) :
    lower (byte (second.val % 16 * 16 + third.val / 4)) (byte (third.val % 4 * 64 + fourth.val)) =
      third := by
  apply Fin.ext
  simp only [lower]
  rw [toNat_byte (by omega), toNat_byte (by omega)]
  omega

theorem lower_byte (second third : Sextet) :
    lower (byte (second.val % 16 * 16 + third.val / 4)) 0 = clear 2 third := by
  apply Fin.ext
  simp only [lower, clear, UInt8.toNat_zero]
  rw [toNat_byte (by omega)]
  omega

theorem low_byte (third fourth : Sextet) :
    low (byte (third.val % 4 * 64 + fourth.val)) = fourth := by
  apply Fin.ext
  simp only [low]
  rw [toNat_byte (by omega)]
  omega

theorem sextets_bytes {data : List Sextet} (whole : data.length % 4 ≠ 1) :
    sextets (bytes data) = cleared data := by
  induction data using groups with
  | nil => rfl
  | one first => exact absurd rfl whole
  | two first second => rw [bytes, sextets, high_byte, middle_byte, cleared]
  | three first second third => rw [bytes, sextets, high_byte, middle_bytes, lower_byte, cleared]
  | four first second third fourth rest restSame =>
      have restWhole : rest.length % 4 ≠ 1 := by
        simp only [List.length_cons] at whole
        omega
      rw [bytes, sextets, high_byte, middle_bytes, lower_bytes, low_byte, restSame restWhole,
        cleared]

def unusedBits (count : Nat) : Nat :=
  match count % 4 with
  | 2 => 4
  | 3 => 2
  | _ => 0

/-- The same symbols, but for the unused low bits of the last one. -/
structure Alike (left right : List Sextet) : Prop where
  length : left.length = right.length
  front : left.dropLast = right.dropLast
  last : ∀ sextet ∈ left.getLast?, ∀ sextet' ∈ right.getLast?,
    sextet.val / 2 ^ unusedBits left.length = sextet'.val / 2 ^ unusedBits left.length

theorem clear_zero (sextet : Sextet) : clear 0 sextet = sextet := by
  apply Fin.ext
  simp only [clear, Nat.pow_zero, Nat.div_one, Nat.mul_one]

theorem clear_eq_iff {count : Nat} {sextet sextet' : Sextet} :
    clear count sextet = clear count sextet' ↔
      sextet.val / 2 ^ count = sextet'.val / 2 ^ count := by
  have positive : 2 ^ count ≠ 0 := Nat.ne_of_gt (Nat.two_pow_pos count)
  rw [Fin.ext_iff]
  exact Nat.mul_left_inj positive

theorem unusedBits_add_four (count : Nat) : unusedBits (count + 4) = unusedBits count := by
  rw [unusedBits, Nat.add_mod_right, unusedBits]

theorem cleared_concat (front : List Sextet) (last : Sextet) :
    cleared (front ++ [last]) = front ++ [clear (unusedBits (front.length + 1)) last] := by
  induction front using groups with
  | nil => exact congrArg (fun sextet => [sextet]) (clear_zero last).symm
  | one first => rfl
  | two first second => rfl
  | three first second third =>
      have full : unusedBits ([first, second, third].length + 1) = 0 := unusedBits_add_four 0
      rw [full, clear_zero]
      rfl
  | four first second third fourth rest restCleared =>
      have sameUnused : unusedBits ((first :: second :: third :: fourth :: rest).length + 1) =
          unusedBits (rest.length + 1) := unusedBits_add_four (rest.length + 1)
      simp only [List.cons_append, cleared, restCleared, sameUnused]

theorem length_cleared (data : List Sextet) : (cleared data).length = data.length := by
  rcases List.eq_nil_or_concat' data with rfl | ⟨front, last, rfl⟩
  · rfl
  · rw [cleared_concat, List.length_append, List.length_append, List.length_singleton,
      List.length_singleton]

theorem alike_concat_iff {front front' : List Sextet} {last last' : Sextet} :
    Alike (front ++ [last]) (front' ++ [last']) ↔
      front = front' ∧ last.val / 2 ^ unusedBits (front.length + 1) =
        last'.val / 2 ^ unusedBits (front.length + 1) := by
  constructor
  · intro alike
    obtain ⟨_, sameFront, sameLast⟩ := alike
    rw [List.dropLast_concat, List.dropLast_concat] at sameFront
    refine ⟨sameFront, ?_⟩
    have sameHigh := sameLast last (List.getLast?_concat ..) last' (List.getLast?_concat ..)
    rwa [List.length_append] at sameHigh
  · intro same
    obtain ⟨rfl, sameHigh⟩ := same
    refine ⟨?_, ?_, ?_⟩
    · rw [List.length_append, List.length_append]
      rfl
    · rw [List.dropLast_concat, List.dropLast_concat]
    · intro sextet isLast sextet' isLast'
      cases Option.some.inj ((List.getLast?_concat ..).symm.trans isLast)
      cases Option.some.inj ((List.getLast?_concat ..).symm.trans isLast')
      rw [List.length_append]
      exact sameHigh

theorem alike_iff_cleared_eq {left right : List Sextet} :
    Alike left right ↔ cleared left = cleared right := by
  by_cases sameLength : left.length = right.length
  · rcases List.eq_nil_or_concat' left with rfl | ⟨front, last, rfl⟩
    · have empty : right = [] := List.eq_nil_of_length_eq_zero sameLength.symm
      rw [empty]
      exact iff_of_true ⟨rfl, rfl, nofun⟩ rfl
    · rcases List.eq_nil_or_concat' right with rfl | ⟨front', last', rfl⟩
      · simp at sameLength
      · have sameFrontLength : front.length = front'.length := by
          simpa only [List.length_append, List.length_singleton, Nat.add_right_cancel_iff]
            using sameLength
        rw [alike_concat_iff, cleared_concat, cleared_concat, ← sameFrontLength, ← clear_eq_iff]
        constructor
        · intro same
          obtain ⟨rfl, sameLast⟩ := same
          rw [sameLast]
        · intro same
          obtain ⟨sameFront, sameLast⟩ := List.append_inj' same rfl
          exact ⟨sameFront, List.singleton_inj.mp sameLast⟩
  · refine iff_of_false (fun alike => sameLength alike.length) ?_
    intro same
    rw [← length_cleared left, same, length_cleared] at sameLength
    exact sameLength rfl

def Closes (symbols padding : Nat) : Prop :=
  (symbols % 4 = 2 ∧ padding = 2) ∨ (symbols % 4 = 3 ∧ padding = 1) ∨
    (symbols % 4 = 0 ∧ (symbols = 0 → padding = 0))

def spelled (data : List (Fin 64)) (padding : Nat) : List Char :=
  data.map alphabet.get ++ List.replicate padding '='

theorem spelled_eq_symbols (data : List Sextet) (padding : Nat) :
    spelled data padding = data.map symbol ++ List.replicate padding '=' := by
  rw [symbol_eq_alphabet]
  rfl

theorem symbol_of_sextet? {character : Char} {sextet : Sextet}
    (found : sextet? character = some sextet) : symbol sextet = character := by
  unfold sextet? at found
  dsimp only at found
  split at found
  · next upper =>
      cases found
      have restored : character.toNat - 65 + 65 = character.toNat := by omega
      simp only [symbol, restored, Char.ofNat_toNat]
      rw [if_pos (by omega)]
  split at found
  · next lower =>
      cases found
      have restored : character.toNat - 71 + 71 = character.toNat := by omega
      simp only [symbol, restored, Char.ofNat_toNat]
      rw [if_neg (by omega), if_pos (by omega)]
  split at found
  · next digit =>
      cases found
      have restored : character.toNat + 4 - 4 = character.toNat := by omega
      simp only [symbol, restored, Char.ofNat_toNat]
      rw [if_neg (by omega), if_neg (by omega), if_pos (by omega)]
  split at found
  · next plus =>
      cases found
      exact plus.symm
  split at found
  · next slash =>
      cases found
      exact slash.symm
  · cases found

theorem eq_of_readSymbols {characters rest : List Char} {data : List Sextet}
    (read : readSymbols characters = (data, rest)) : characters = data.map symbol ++ rest := by
  induction characters generalizing data with
  | nil =>
      cases read
      rfl
  | cons character characters tailRead =>
      rw [readSymbols] at read
      cases found : sextet? character with
      | none =>
          rw [found] at read
          cases read
          rfl
      | some sextet =>
          rw [found] at read
          cases read
          rw [List.map_cons, symbol_of_sextet? found, List.cons_append, ← tailRead rfl]

theorem exists_replicate_iff {padding : List Char} (count : Nat) {closes : Nat → Prop}
    (only : ∀ other, closes other ↔ other = count) :
    (∃ other, padding = List.replicate other '=' ∧ closes other) ↔
      padding = List.replicate count '=' := by
  simp only [only, exists_eq_right]

theorem completes_iff {symbols : Nat} {padding : List Char} :
    completes symbols padding = true ↔
      ∃ count, padding = List.replicate count '=' ∧ Closes symbols count := by
  unfold completes Closes
  split
  · next whole =>
      simp only [Bool.and_eq_true, List.all_eq_true, beq_iff_eq, Bool.or_eq_true, bne_iff_ne,
        List.isEmpty_iff]
      constructor
      · intro ⟨equalSigns, enough⟩
        refine ⟨padding.length, List.eq_replicate_of_mem equalSigns, .inr (.inr ⟨whole, ?_⟩)⟩
        intro empty
        rw [enough.resolve_left (not_not_intro empty), List.length_nil]
      · intro ⟨count, same, closes⟩
        have noneIfEmpty : symbols = 0 → count = 0 := by omega
        refine ⟨fun character member => ?_, ?_⟩
        · rw [same] at member
          exact List.eq_of_mem_replicate member
        · by_cases empty : symbols = 0
          · rw [same, noneIfEmpty empty]
            exact .inr rfl
          · exact .inl empty
  · next two =>
      rw [beq_iff_eq]
      exact (exists_replicate_iff 2 fun other => by omega).symm
  · next three =>
      rw [beq_iff_eq]
      exact (exists_replicate_iff 1 fun other => by omega).symm
  · next notZero notTwo notThree =>
      refine iff_of_false Bool.false_ne_true ?_
      intro ⟨count, _, closes⟩
      rcases closes with ⟨two, _⟩ | ⟨three, _⟩ | ⟨zero, _⟩
      · exact notTwo two
      · exact notThree three
      · exact notZero zero

theorem decode?_eq_some_iff {spelling : List Char} {content : List UInt8} :
    decode? spelling = some content ↔
      ∃ data padding, spelling = spelled data padding ∧ Closes data.length padding ∧
        bytes data = content := by
  constructor
  · intro read
    rw [decode?] at read
    cases parts : readSymbols spelling with
    | mk data rest =>
        rw [parts] at read
        simp only [Option.ite_none_right_eq_some, Option.some.injEq] at read
        obtain ⟨completed, sameContent⟩ := read
        obtain ⟨padding, rfl, closes⟩ := completes_iff.mp completed
        refine ⟨data, padding, ?_, closes, sameContent⟩
        rw [spelled_eq_symbols]
        exact eq_of_readSymbols parts
  · intro shape
    obtain ⟨data, padding, rfl, closes, rfl⟩ := shape
    rw [decode?, spelled_eq_symbols, readSymbols_symbols data _ (readSymbols_padding padding)]
    exact if_pos (completes_iff.mpr ⟨padding, rfl, closes⟩)

theorem all_isAscii_spelled (data : List (Fin 64)) (padding : Nat) :
    (spelled data padding).all isAscii = true := by
  rw [spelled_eq_symbols, List.all_append, List.all_map, Bool.and_eq_true]
  constructor
  · rw [List.all_eq_true]
    intro sextet _
    exact isAscii_symbol sextet
  · rw [List.all_eq_true]
    intro character member
    rw [List.eq_of_mem_replicate member]
    rfl

theorem ascii_of_all_lt {content : List UInt8} (small : content.all (· < 128) = true) :
    (asciiCharacters content).all isAscii = true ∧
      asciiBytes (asciiCharacters content) = content := by
  have bounds : ∀ byte ∈ content, byte.toNat < 128 := by
    intro byte member
    exact UInt8.lt_iff_toNat_lt.mp (of_decide_eq_true (List.all_eq_true.mp small byte member))
  refine ⟨?_, asciiBytes_asciiCharacters bounds⟩
  rw [asciiCharacters, List.all_map, List.all_eq_true]
  intro byte member
  rw [Function.comp_apply, isAscii, toNat_ofNat_of_ascii (bounds byte member)]
  exact decide_eq_true (bounds byte member)

theorem decodeAscii_eq_ok_iff {spelling text : List Char} :
    decodeAscii spelling = .ok text ↔
      ∃ data padding, spelling = spelled data padding ∧ Closes data.length padding ∧
        bytes data = asciiBytes text ∧ text.all isAscii = true := by
  constructor
  · intro accepted
    unfold decodeAscii at accepted
    split at accepted
    · cases accepted
    split at accepted
    · cases accepted
    next content read =>
    split at accepted
    · next small =>
        cases accepted
        obtain ⟨data, padding, shape, closes, sameContent⟩ := decode?_eq_some_iff.mp read
        obtain ⟨ascii, restored⟩ := ascii_of_all_lt small
        exact ⟨data, padding, shape, closes, sameContent.trans restored.symm, ascii⟩
    · cases accepted
  · intro shape
    obtain ⟨data, padding, rfl, closes, sameContent, ascii⟩ := shape
    apply decodeAscii_of_decode? (all_isAscii_spelled data padding) ascii
    exact decode?_eq_some_iff.mpr ⟨data, padding, rfl, closes, sameContent⟩

theorem decodeText_eq_ok_iff {spelling text : String} :
    decodeText spelling = .ok text ↔
      ∃ data padding, spelling.toList = spelled data padding ∧ Closes data.length padding ∧
        bytes data = asciiBytes text.toList ∧ text.toList.all isAscii = true := by
  rw [← decodeAscii_eq_ok_iff, decodeText]
  cases decodeAscii spelling.toList with
  | error refusal => exact iff_of_false nofun nofun
  | ok characters =>
      change Except.ok (String.ofList characters) = .ok text ↔
        Except.ok characters = .ok text.toList
      rw [Except.ok.injEq, Except.ok.injEq, ← String.toList_inj, String.toList_ofList]

theorem Closes.whole {symbols padding : Nat} (closes : Closes symbols padding) :
    symbols % 4 ≠ 1 := by
  unfold Closes at closes
  omega

theorem bytes_cleared {data : List Sextet} (whole : data.length % 4 ≠ 1) :
    bytes (cleared data) = bytes data := by
  rw [← sextets_bytes whole, bytes_sextets]

theorem bytes_eq_iff_alike {left right : List Sextet} (leftWhole : left.length % 4 ≠ 1)
    (rightWhole : right.length % 4 ≠ 1) : bytes left = bytes right ↔ Alike left right := by
  rw [alike_iff_cleared_eq]
  constructor
  · intro same
    rw [← sextets_bytes leftWhole, same, sextets_bytes rightWhole]
  · intro same
    rw [← bytes_cleared leftWhole, same, bytes_cleared rightWhole]

theorem alike_sextets_bytes {data : List Sextet} (whole : data.length % 4 ≠ 1) :
    Alike (sextets (bytes data)) data := by
  have clearedWhole : (cleared data).length % 4 ≠ 1 := by
    rw [length_cleared]
    exact whole
  rw [sextets_bytes whole, ← bytes_eq_iff_alike clearedWhole whole, bytes_cleared whole]

theorem spellings_of_one_text {spelling text : String} (accepted : decodeText spelling = .ok text) :
    ∃ data padding, spelling.toList = spelled data padding ∧ data.length % 4 ≠ 1 ∧
      text.toList.length = 6 * data.length / 8 ∧
      (∃ written canonical, encodeText text = .ok written ∧
        written.toList = spelled canonical ((3 - text.toList.length % 3) % 3) ∧
        Alike canonical data) ∧
      ∀ other, decodeText other = .ok text ↔
        ∃ data' padding', other.toList = spelled data' padding' ∧ Closes data'.length padding' ∧
          Alike data' data := by
  obtain ⟨data, padding, shape, closes, sameContent, ascii⟩ := decodeText_eq_ok_iff.mp accepted
  refine ⟨data, padding, shape, closes.whole, ?_, ?_, ?_⟩
  · rw [← length_bytes, sameContent, asciiBytes, List.length_map]
  · refine ⟨_, sextets (bytes data), encodeText_of_isAscii ascii, ?_,
      alike_sextets_bytes closes.whole⟩
    rw [String.toList_ofList, ofAscii, ← sameContent, spelled_eq_symbols, encode, sameContent,
      asciiBytes, List.length_map, paddingLength]
  · intro other
    rw [decodeText_eq_ok_iff]
    constructor
    · intro read
      obtain ⟨data', padding', shape', closes', sameContent', _⟩ := read
      refine ⟨data', padding', shape', closes', ?_⟩
      exact (bytes_eq_iff_alike closes'.whole closes.whole).mp (sameContent'.trans sameContent.symm)
    · intro respelled
      obtain ⟨data', padding', shape', closes', alike⟩ := respelled
      refine ⟨data', padding', shape', closes', ?_, ascii⟩
      rw [← sameContent]
      exact (bytes_eq_iff_alike closes'.whole closes.whole).mpr alike

theorem spellings_of_one_text_letter :
    decodeText "YR==" = .ok "a" ∧ encodeText "a" = .ok "YQ==" ∧
      ∀ other, decodeText other = .ok "a" → other.toList.length = 4 := by
  have accepted : decodeText "YR==" = .ok "a" := by decide
  refine ⟨accepted, by decide, ?_⟩
  obtain ⟨data, padding, _, whole, count, _, others⟩ := spellings_of_one_text accepted
  intro other read
  obtain ⟨data', padding', shape, closes, alike⟩ := (others other).mp read
  have sameCount := alike.length
  change 1 = 6 * data.length / 8 at count
  unfold Closes at closes
  rw [shape, spelled, List.length_append, List.length_map, List.length_replicate]
  omega

end InDoubt.Base64
