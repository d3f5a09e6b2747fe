import InDoubt.Proofs.Outcome
import InDoubt.Proofs.Settings.Entries
import InDoubt.Proofs.Value.Texts

namespace InDoubt.Json

open Outcome
open Settings (Dictionary Entries keyed_foldl_setEntry keyed_nil)

theorem orMalformed_eq_ok_iff {α : Type} {found : Option α} {result : α} :
    orMalformed found = .ok result ↔ found = some result := by
  cases found with
  | none => simp [orMalformed]
  | some value => simp [orMalformed]

theorem typeName_stringValue (units : List Nat) : (stringValue units).typeName = "str" := by
  unfold stringValue Value.ofCodes
  split
  · rfl
  · rfl

theorem typeName_of_readWord {characters remaining : List Char} {value : Value}
    (found : readWord characters = some (value, remaining)) : value.typeName ≠ "dict" := by
  obtain ⟨⟨word, meaning⟩, member, taken⟩ := List.exists_of_findSome?_eq_some found
  obtain ⟨rest, _, same⟩ := Option.map_eq_some_iff.mp taken
  cases same
  have noWord : ∀ entry ∈ words, entry.2.typeName ≠ "dict" := by decide
  exact noWord _ member

theorem typeName_of_readNumber {negative : Bool} {characters remaining : List Char} {value : Value}
    (found : readNumber negative characters = some (value, remaining)) :
    value.typeName ≠ "dict" := by
  rw [readNumber.eq_def] at found
  extract_lets whole at found
  split at found
  · cases found
  · simp only at found
    split at found
    · split at found
      · cases found
      · cases found
        simp [Value.typeName]
    · cases found
      simp [Value.typeName]

theorem readValue_cases {fuel room : Nat} {characters remaining : List Char} {value : Value}
    (read : readValue fuel room characters = .ok (value, remaining)) :
    value.typeName ≠ "dict" ∨ value = .dict [] ∨ ∃ entries, value = Value.dictOf entries := by
  cases fuel with
  | zero => simp [readValue] at read
  | succ fuel =>
      rw [readValue.eq_def] at read
      simp only at read
      split at read
      next rest =>
        obtain ⟨⟨units, after⟩, _, same⟩ := bind_eq_ok_iff.mp read
        cases same
        left
        simp [typeName_stringValue]
      next rest =>
        left
        split at read
        · cases read
        · split at read
          · cases read
            simp [Value.typeName]
          · obtain ⟨⟨items, after⟩, _, same⟩ := bind_eq_ok_iff.mp read
            cases same
            simp [Value.typeName]
      next rest =>
        right
        split at read
        · cases read
        · split at read
          · cases read
            exact .inl rfl
          · obtain ⟨⟨entries, after⟩, _, same⟩ := bind_eq_ok_iff.mp read
            cases same
            exact .inr ⟨entries, rfl⟩
      next =>
        left
        split at read
        next found word =>
          cases read
          exact typeName_of_readWord word
        next =>
          split at read
          · exact typeName_of_readNumber (orMalformed_eq_ok_iff.mp read)
          · exact typeName_of_readNumber (orMalformed_eq_ok_iff.mp read)

theorem dictionary_of_read {room : Nat} {text : String} {entries : Entries}
    (found : read room text = .ok (.dict entries)) : Dictionary entries := by
  obtain ⟨⟨value, remaining⟩, readFirst, rest⟩ := bind_eq_ok_iff.mp found
  simp only at rest
  split at rest
  · cases rest
    rcases readValue_cases readFirst with noDict | empty | ⟨given, same⟩
    · exact absurd rfl noDict
    · cases empty
      exact List.Pairwise.nil
    · cases same
      have anyKey : ∀ key ∈ given.map Prod.fst, (fun _ : Value => True) key := fun _ _ => trivial
      exact (keyed_foldl_setEntry keyed_nil anyKey).dictionary
  · cases rest

def objectCodes? : Except Refusal Value → Option (List (Option (List Nat) × Option (List Nat)))
  | .ok (.dict entries) => some (entries.map Value.entryCodes)
  | _ => none

theorem eq_dict_of_objectCodes? {found : Except Refusal Value} {entries : Entries}
    (texts : ∀ entry ∈ entries, entry.1.isText = true ∧ entry.2.isText = true)
    (codes : objectCodes? found = some (entries.map Value.entryCodes)) :
    found = .ok (.dict entries) := by
  unfold objectCodes? at codes
  split at codes
  · rw [Value.eq_of_entryCodes_eq texts (Option.some.inj codes)]
  · cases codes

end InDoubt.Json
