import Mathlib.Algebra.Order.Floor.Div
import InDoubt.Proofs.Base64.Canonical

namespace InDoubt.Base64

/-- Every three bytes, and those that are left, are written as four characters. -/
def writtenLength (count : Nat) : Nat := 4 * (count ⌈/⌉ 3)

theorem length_encode_ceilDiv (content : List UInt8) :
    (encode content).length = 4 * (content.length ⌈/⌉ 3) := by
  have count := length_encode content
  rw [paddingLength] at count
  rw [Nat.ceilDiv_eq_add_pred_div]
  omega

theorem encode_eq_alphabet (content : List UInt8) :
    encode content = (sextets content).map alphabet.get ++
      List.replicate (paddingLength content.length) '=' := by
  rw [encode, symbol_eq_alphabet]
  rfl

theorem encodeCodes_eq_error_iff {codes : List Nat} :
    encodeCodes codes = .error .foreignText ↔ ∃ code ∈ codes, 128 ≤ code := by
  unfold encodeCodes
  split
  · next ascii =>
      rw [List.all_eq_true] at ascii
      refine iff_of_false nofun ?_
      intro ⟨code, member, foreign⟩
      exact absurd (of_decide_eq_true (ascii code member)) (Nat.not_lt.mpr foreign)
  · next foreign =>
      rw [Bool.not_eq_true, List.all_eq_false] at foreign
      obtain ⟨code, member, large⟩ := foreign
      refine iff_of_true rfl ⟨code, member, ?_⟩
      simpa using large

theorem exists_text_of_ascii {codes : List Nat} (ascii : ∀ code ∈ codes, code < 128) :
    ∃ text : String, text.toList.all isAscii = true ∧ text.toList.map Char.toNat = codes := by
  have sameCodes : (codes.map Char.ofNat).map Char.toNat = codes :=
    calc
      (codes.map Char.ofNat).map Char.toNat = codes.map fun code => (Char.ofNat code).toNat :=
        List.map_map
      _ = codes.map id :=
        List.map_congr_left fun code member => toNat_ofNat_of_ascii (ascii code member)
      _ = codes := List.map_id codes
  refine ⟨String.ofList (codes.map Char.ofNat), ?_, ?_⟩
  · rw [String.toList_ofList, List.all_map, List.all_eq_true]
    intro code member
    have small := ascii code member
    rw [Function.comp_apply, isAscii, toNat_ofNat_of_ascii small]
    exact decide_eq_true small
  · rw [String.toList_ofList]
    exact sameCodes

/-- What the written form of some number of characters is like. -/
structure WrittenForm (count : Nat) (written : List Char) : Prop where
  length : written.length = 4 * (count ⌈/⌉ 3)
  symbols : ∃ data : List (Fin 64), written =
    data.map alphabet.get ++ List.replicate ((3 - count % 3) % 3) '='
  separate : '_' ∉ written

theorem writtenForm_encode (content : List UInt8) :
    WrittenForm content.length (encode content) :=
  ⟨length_encode_ceilDiv content, ⟨sextets content, encode_eq_alphabet content⟩,
    underscore_not_mem_encode content⟩

theorem ascii_text_written_and_read_back (codes : List Nat) :
    ((∀ code ∈ codes, code < 128) →
      ∃ text written, text.toList.map Char.toNat = codes ∧ encodeCodes codes = .ok written ∧
        decodeText written = .ok text ∧ WrittenForm codes.length written.toList) ∧
    (encodeCodes codes = .error .foreignText ↔ ∃ code ∈ codes, 128 ≤ code) := by
  refine ⟨?_, encodeCodes_eq_error_iff⟩
  intro ascii
  obtain ⟨text, asciiText, rfl⟩ := exists_text_of_ascii ascii
  have form := writtenForm_encode (asciiBytes text.toList)
  rw [asciiBytes, List.length_map] at form
  refine ⟨text, String.ofList (ofAscii text.toList), rfl, ?_, ?_, ?_⟩
  · rw [encodeCodes_toNat, encodeText_of_isAscii asciiText]
  · rw [decodeText, String.toList_ofList, decodeAscii_ofAscii asciiText]
    change Except.ok (String.ofList text.toList) = _
    rw [String.ofList_toList]
  · rw [String.toList_ofList, List.length_map]
    exact form

theorem ascii_text_written_and_read_back_control :
    (∀ code ∈ [0, 0x7f], code < 128) ∧
    (∃ text written, text.toList.map Char.toNat = [0, 0x7f] ∧
      encodeCodes [0, 0x7f] = .ok written ∧ decodeText written = .ok text ∧
      WrittenForm 2 written.toList) ∧
    encodeCodes [0x41, 0xd800] = .error .foreignText := by
  have ascii : ∀ code ∈ [0, 0x7f], code < 128 := by decide
  refine ⟨ascii, (ascii_text_written_and_read_back [0, 0x7f]).1 ascii, ?_⟩
  exact (ascii_text_written_and_read_back [0x41, 0xd800]).2.mpr ⟨0xd800, by decide, by decide⟩

end InDoubt.Base64
