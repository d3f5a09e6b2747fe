import InDoubt.Base64

namespace InDoubt.Base64

theorem length_sextets (content : List UInt8) :
    6 * (sextets content).length = 8 * content.length + 2 * paddingLength content.length := by
  fun_induction sextets content with
  | case1 first second third rest shorter =>
      simp only [List.length_cons, paddingLength] at shorter ⊢
      omega
  | case2 first second => rfl
  | case3 first => rfl
  | case4 => rfl

theorem length_encode (content : List UInt8) : 6 * (encode content).length =
    8 * content.length + 8 * paddingLength content.length := by
  have sextetCount := length_sextets content
  simp only [encode, List.length_append, List.length_map, List.length_replicate]
  omega

theorem sextet?_padding : sextet? '=' = none := by decide

theorem readSymbols_padding (count : Nat) :
    readSymbols (List.replicate count '=') = ([], List.replicate count '=') := by
  cases count with
  | zero => rfl
  | succ count => simp [List.replicate_succ, readSymbols, sextet?_padding]

theorem readSymbols_symbols (data : List Sextet) (padding : List Char)
    (stops : readSymbols padding = ([], padding)) :
    readSymbols (data.map symbol ++ padding) = (data, padding) := by
  induction data with
  | nil => exact stops
  | cons sextet rest restRead =>
      simp only [List.map_cons, List.cons_append, readSymbols, sextet?_symbol]
      rw [restRead]

theorem completes_encode (content : List UInt8) :
    completes (sextets content).length
      (List.replicate (paddingLength content.length) '=') = true := by
  have sextetCount := length_sextets content
  -- The number of symbols in the last group follows from the number of bytes in it.
  obtain lastBytes | lastBytes | lastBytes :
      content.length % 3 = 0 ∨ content.length % 3 = 1 ∨ content.length % 3 = 2 := by omega
  · have padding : paddingLength content.length = 0 := by simp [paddingLength, lastBytes]
    have lastSymbols : (sextets content).length % 4 = 0 := by omega
    simp [completes, lastSymbols, padding]
  · have padding : paddingLength content.length = 2 := by simp [paddingLength, lastBytes]
    have lastSymbols : (sextets content).length % 4 = 2 := by omega
    simp [completes, lastSymbols, padding, List.replicate]
  · have padding : paddingLength content.length = 1 := by simp [paddingLength, lastBytes]
    have lastSymbols : (sextets content).length % 4 = 3 := by omega
    simp [completes, lastSymbols, padding]

@[simp] theorem decode?_encode (content : List UInt8) :
    decode? (encode content) = some content := by
  unfold decode? encode
  rw [readSymbols_symbols _ _ (readSymbols_padding _)]
  simp [completes_encode]

theorem mem_encode {content : List UInt8} {character : Char}
    (member : character ∈ encode content) :
    (∃ sextet, symbol sextet = character) ∨ character = '=' := by
  simp only [encode, List.mem_append, List.mem_map, List.mem_replicate] at member
  rcases member with ⟨sextet, _, spelled⟩ | ⟨_, padding⟩
  · exact .inl ⟨sextet, spelled⟩
  · exact .inr padding

theorem underscore_not_mem_encode (content : List UInt8) : '_' ∉ encode content := by
  intro member
  rcases mem_encode member with ⟨sextet, spelled⟩ | padding
  · exact symbol_ne_underscore sextet spelled
  · exact absurd padding (by decide)

theorem isAscii_symbol (sextet : Sextet) : isAscii (symbol sextet) = true := by
  revert sextet
  decide

theorem all_isAscii_encode (content : List UInt8) : (encode content).all isAscii = true := by
  rw [List.all_eq_true]
  intro character member
  rcases mem_encode member with ⟨sextet, rfl⟩ | rfl
  · exact isAscii_symbol sextet
  · rfl

theorem toNat_byte_of_isAscii {character : Char} (ascii : isAscii character = true) :
    (UInt8.ofNat character.toNat).toNat = character.toNat := by
  have bound : character.toNat < 128 := by simpa [isAscii] using ascii
  rw [UInt8.toNat_ofNat']
  omega

theorem all_lt_asciiBytes {characters : List Char} (ascii : characters.all isAscii = true) :
    (asciiBytes characters).all (· < 128) = true := by
  rw [List.all_eq_true] at ascii
  simp only [asciiBytes, List.all_map, List.all_eq_true, Function.comp_apply, decide_eq_true_eq]
  intro character member
  rw [UInt8.lt_iff_toNat_lt, toNat_byte_of_isAscii (ascii character member)]
  simpa [isAscii] using ascii character member

theorem asciiCharacters_asciiBytes {characters : List Char}
    (ascii : characters.all isAscii = true) :
    asciiCharacters (asciiBytes characters) = characters := by
  rw [List.all_eq_true] at ascii
  calc
    asciiCharacters (asciiBytes characters) =
        characters.map fun character => Char.ofNat (UInt8.ofNat character.toNat).toNat := by
      rw [asciiCharacters, asciiBytes, List.map_map]
      rfl
    _ = characters.map id := by
      apply List.map_congr_left
      intro character member
      rw [toNat_byte_of_isAscii (ascii character member), Char.ofNat_toNat, id]
    _ = characters := List.map_id characters

theorem asciiBytes_asciiCharacters {content : List UInt8}
    (ascii : ∀ byte ∈ content, byte.toNat < 128) :
    asciiBytes (asciiCharacters content) = content := by
  calc
    asciiBytes (asciiCharacters content) =
        content.map fun byte => UInt8.ofNat (Char.ofNat byte.toNat).toNat := by
      rw [asciiBytes, asciiCharacters, List.map_map]
      rfl
    _ = content.map id := by
      apply List.map_congr_left
      intro byte member
      rw [toNat_ofNat_of_ascii (ascii byte member), UInt8.ofNat_toNat, id]
    _ = content := List.map_id content

theorem decodeAscii_of_decode? {spelling characters : List Char}
    (spellingAscii : spelling.all isAscii = true) (ascii : characters.all isAscii = true)
    (read : decode? spelling = some (asciiBytes characters)) :
    decodeAscii spelling = .ok characters := by
  unfold decodeAscii
  rw [spellingAscii, read]
  simp only [Bool.not_true, Bool.false_eq_true, if_false]
  rw [if_pos (all_lt_asciiBytes ascii), asciiCharacters_asciiBytes ascii]

theorem decodeAscii_ofAscii {characters : List Char} (ascii : characters.all isAscii = true) :
    decodeAscii (ofAscii characters) = .ok characters :=
  decodeAscii_of_decode? (all_isAscii_encode _) ascii (decode?_encode _)

theorem encodeText_of_isAscii {text : String} (ascii : text.toList.all isAscii = true) :
    encodeText text = .ok (String.ofList (ofAscii text.toList)) := by
  simp [encodeText, ascii]

end InDoubt.Base64
