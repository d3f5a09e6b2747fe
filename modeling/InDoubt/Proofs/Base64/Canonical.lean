import InDoubt.Proofs.Base64.RoundTrip

namespace InDoubt.Base64

def bits : Nat → Nat → List Bool
  | 0, _ => []
  | width + 1, value => bits width (value / 2) ++ [value % 2 == 1]

def alphabet : Vector Char 64 := #v[
  'A', 'B', 'C', 'D', 'E', 'F', 'G', 'H', 'I', 'J', 'K', 'L', 'M',
  'N', 'O', 'P', 'Q', 'R', 'S', 'T', 'U', 'V', 'W', 'X', 'Y', 'Z',
  'a', 'b', 'c', 'd', 'e', 'f', 'g', 'h', 'i', 'j', 'k', 'l', 'm',
  'n', 'o', 'p', 'q', 'r', 's', 't', 'u', 'v', 'w', 'x', 'y', 'z',
  '0', '1', '2', '3', '4', '5', '6', '7', '8', '9', '+', '/']

/-- The spelling is symbols and at most two equals signs that complete the last group of four; the
bits of the symbols are those of the bytes, and the unused ones are zero. -/
def Spells (spelling : List Char) (content : List UInt8) : Prop :=
  ∃ (data : List (Fin 64)) (padding : Nat),
    spelling = data.map (fun sextet => alphabet[sextet]) ++ List.replicate padding '=' ∧
    padding ≤ 2 ∧
    spelling.length % 4 = 0 ∧
    data.flatMap (fun sextet => bits 6 sextet.val) =
      content.flatMap (fun byte => bits 8 byte.toNat) ++ List.replicate (2 * padding) false

theorem symbol_eq_alphabet : symbol = fun sextet => alphabet[sextet] := by
  funext sextet
  revert sextet
  decide

@[simp] theorem length_bits (width value : Nat) : (bits width value).length = width := by
  induction width generalizing value with
  | zero => rfl
  | succ width narrower => simp [bits, narrower]

def capacity : Nat → Nat
  | 0 => 1
  | width + 1 => 2 * capacity width

theorem bits_injective {width left right : Nat} (leftFits : left < capacity width)
    (rightFits : right < capacity width) (same : bits width left = bits width right) :
    left = right := by
  induction width generalizing left right with
  | zero =>
      rw [capacity] at leftFits rightFits
      omega
  | succ width narrower =>
      rw [capacity] at leftFits rightFits
      obtain ⟨higher, lowest⟩ := List.append_inj' same rfl
      have halves : left / 2 = right / 2 := by
        apply narrower
        · omega
        · omega
        · exact higher
      have parity : (left % 2 == 1) = (right % 2 == 1) := List.singleton_inj.mp lowest
      rw [Bool.eq_iff_iff, beq_iff_eq, beq_iff_eq] at parity
      omega

theorem bits_add (high low value : Nat) :
    bits (high + low) value =
      bits high (value / capacity low) ++ bits low (value % capacity low) := by
  induction low generalizing value with
  | zero => simp [bits, capacity]
  | succ low shorter =>
      have quotient : value / 2 / capacity low = value / capacity (low + 1) := by
        rw [capacity, Nat.div_div_eq_div_mul]
      have remainder : value / 2 % capacity low = value % capacity (low + 1) / 2 := by
        rw [capacity, Nat.mod_mul_right_div_self]
      have lowest : value % capacity (low + 1) % 2 = value % 2 := by
        rw [capacity, Nat.mod_mul_right_mod]
      calc
        bits (high + (low + 1)) value = bits (high + low) (value / 2) ++ [value % 2 == 1] := rfl
        _ = bits high (value / capacity (low + 1)) ++
            (bits low (value % capacity (low + 1) / 2) ++
              [value % capacity (low + 1) % 2 == 1]) := by
          rw [shorter, quotient, remainder, lowest, List.append_assoc]

theorem bits_zero (width : Nat) : bits width 0 = List.replicate width false := by
  induction width with
  | zero => rfl
  | succ width narrower => simp [bits, narrower, List.replicate_succ']

theorem bits_middle (first second : UInt8) :
    bits 6 (middle first second).val =
      bits 2 (first.toNat % 4) ++ bits 4 (second.toNat / 16) := by
  have bound := second.toNat_lt
  have quotient : (middle first second).val / 16 = first.toNat % 4 := by
    simp only [middle]
    omega
  have remainder : (middle first second).val % 16 = second.toNat / 16 := by
    simp only [middle]
    omega
  rw [← quotient, ← remainder]
  exact bits_add 2 4 _

theorem bits_lower (second third : UInt8) :
    bits 6 (lower second third).val =
      bits 4 (second.toNat % 16) ++ bits 2 (third.toNat / 64) := by
  have bound := third.toNat_lt
  have quotient : (lower second third).val / 4 = second.toNat % 16 := by
    simp only [lower]
    omega
  have remainder : (lower second third).val % 4 = third.toNat / 64 := by
    simp only [lower]
    omega
  rw [← quotient, ← remainder]
  exact bits_add 4 2 _

theorem bits_first (byte : UInt8) :
    bits 8 byte.toNat = bits 6 (high byte).val ++ bits 2 (byte.toNat % 4) := bits_add 6 2 _

theorem bits_second (byte : UInt8) :
    bits 8 byte.toNat = bits 4 (byte.toNat / 16) ++ bits 4 (byte.toNat % 16) := bits_add 4 4 _

theorem bits_third (byte : UInt8) :
    bits 8 byte.toNat = bits 2 (byte.toNat / 64) ++ bits 6 (low byte).val := bits_add 2 6 _

theorem flatMap_bits_sextets (content : List UInt8) :
    (sextets content).flatMap (fun sextet => bits 6 sextet.val) =
      content.flatMap (fun byte => bits 8 byte.toNat) ++
        List.replicate (2 * paddingLength content.length) false := by
  fun_induction sextets content with
  | case1 first second third rest shorter =>
      have samePadding : paddingLength (rest.length + 1 + 1 + 1) = paddingLength rest.length := by
        simp only [paddingLength]
        omega
      simp only [List.flatMap_cons, List.length_cons, samePadding]
      rw [shorter, bits_first first, bits_middle, bits_second second, bits_lower, bits_third third]
      simp only [List.append_assoc]
  | case2 first second =>
      simp only [List.flatMap_cons, List.flatMap_nil, List.append_nil]
      rw [bits_first first, bits_middle, bits_second second, bits_lower]
      simp [bits_zero, paddingLength]
  | case3 first =>
      simp only [List.flatMap_cons, List.flatMap_nil, List.append_nil]
      rw [bits_first first, bits_middle]
      simp [bits_zero, paddingLength]
  | case4 => rfl

theorem length_flatMap_bits {α : Type} (width : Nat) (number : α → Nat) (items : List α) :
    (items.flatMap fun item => bits width (number item)).length = width * items.length := by
  induction items with
  | nil => rfl
  | cons item rest counted =>
      rw [List.flatMap_cons, List.length_append, counted, length_bits, List.length_cons,
        Nat.mul_succ, Nat.add_comm]

theorem sextet_lt_capacity (sextet : Sextet) : sextet.val < capacity 6 := sextet.isLt

theorem sextets_eq_of_flatMap_bits {left right : List Sextet}
    (same : left.flatMap (fun sextet => bits 6 sextet.val) =
      right.flatMap (fun sextet => bits 6 sextet.val)) : left = right := by
  induction left generalizing right with
  | nil =>
      have count := congrArg List.length same
      rw [length_flatMap_bits, length_flatMap_bits, List.length_nil] at count
      exact (List.length_eq_zero_iff.mp (by omega)).symm
  | cons sextet rest restSame =>
      cases right with
      | nil => simp [bits] at same
      | cons sextet' rest' =>
          simp only [List.flatMap_cons] at same
          obtain ⟨headSame, tailSame⟩ := List.append_inj same (by simp)
          have sextetSame : sextet = sextet' := by
            apply Fin.ext
            exact bits_injective (sextet_lt_capacity sextet) (sextet_lt_capacity sextet') headSame
          rw [sextetSame, restSame tailSame]

theorem spells_encode (content : List UInt8) : Spells (encode content) content := by
  refine ⟨sextets content, paddingLength content.length, ?_, ?_, ?_, flatMap_bits_sextets content⟩
  · rw [encode, symbol_eq_alphabet]
  · simp only [paddingLength]
    omega
  · have count := length_encode content
    simp only [paddingLength] at count
    omega

theorem Spells.eq_encode {spelling : List Char} {content : List UInt8}
    (spells : Spells spelling content) : spelling = encode content := by
  obtain ⟨data, padding, rfl, few, groups, sameBits⟩ := spells
  -- Counting bits on both sides leaves one possible amount of padding.
  have bitCount := congrArg List.length sameBits
  rw [List.length_append, length_flatMap_bits, length_flatMap_bits, List.length_replicate]
    at bitCount
  simp only [List.length_append, List.length_map, List.length_replicate] at groups
  have samePadding : padding = paddingLength content.length := by
    simp only [paddingLength]
    omega
  have sameData : data = sextets content := by
    apply sextets_eq_of_flatMap_bits
    rw [sameBits, flatMap_bits_sextets, samePadding]
  rw [sameData, samePadding, encode, symbol_eq_alphabet]

/-- A spelling is canonical exactly if writing the bytes it stands for gives it back. -/
theorem spells_iff {spelling : List Char} {content : List UInt8} :
    Spells spelling content ↔ spelling = encode content := by
  constructor
  · exact Spells.eq_encode
  · intro same
    rw [same]
    exact spells_encode content

end InDoubt.Base64
