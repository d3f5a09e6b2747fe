import InDoubt.Fault
import InDoubt.Proofs.Text.Quoted

namespace InDoubt

namespace Value

theorem text?_of_codes? {value : Value} {codes : List Nat} (held : value.codes? = some codes) :
    value.text? = some codes := by
  cases value with
  | text given => exact held
  | brokenText codes broken => exact held
  | _ => simp [codes?] at held

theorem printed?_of_codes? {value : Value} {codes : List Nat} (held : value.codes? = some codes) :
    value.printed? = some (Text.quotedCodes codes) := by
  cases value with
  | text given =>
      cases held
      rw [printed?, Text.quoted_eq_quotedCodes]
  | brokenText codes broken =>
      cases held
      rw [printed?]
  | _ => simp [codes?] at held

@[simp] theorem codes?_ofCodes (codes : List Nat) : (ofCodes codes).codes? = some codes := by
  unfold ofCodes
  split
  · next whole => exact congrArg some (Text.codes_ofList_of_all whole)
  · rfl

theorem eq_of_codes?_eq {first second : Value} {codes : List Nat}
    (firstHeld : first.codes? = some codes) (secondHeld : second.codes? = some codes) :
    first = second := by
  cases first with
  | text given =>
      cases firstHeld
      cases second with
      | text given' =>
          have codesSame : given'.toList.map Char.toNat = given.toList.map Char.toNat :=
            Option.some.inj secondHeld
          have charactersSame := (List.map_inj_right fun _ _ => Char.toNat_inj.mp).mp codesSame
          exact congrArg text (String.toList_inj.mp charactersSame).symm
      | brokenText codes broken =>
          cases secondHeld
          cases (Text.all_isCharacter_codes given).symm.trans broken
      | _ => simp [codes?] at secondHeld
  | brokenText codes broken =>
      cases firstHeld
      cases second with
      | text given =>
          cases secondHeld
          cases (Text.all_isCharacter_codes given).symm.trans broken
      | brokenText codes broken =>
          cases secondHeld
          rfl
      | _ => simp [codes?] at secondHeld
  | _ => simp [codes?] at firstHeld

@[simp] theorem ofCodes_codes (given : String) : ofCodes (Text.codes given) = text given :=
  eq_of_codes?_eq (codes?_ofCodes _) rfl

/-- What is told by code points: the keys and contents of entries, where these are texts. -/
def entryCodes (entry : Value × Value) : Option (List Nat) × Option (List Nat) :=
  (entry.1.codes?, entry.2.codes?)

theorem eq_of_isText_of_codes?_eq {first second : Value} (isText : first.isText = true)
    (same : second.codes? = first.codes?) : second = first := by
  obtain ⟨codes, held⟩ := Option.isSome_iff_exists.mp isText
  exact eq_of_codes?_eq (same.trans held) held

theorem eq_of_entryCodes_eq {first second : List (Value × Value)}
    (texts : ∀ entry ∈ first, entry.1.isText = true ∧ entry.2.isText = true)
    (same : second.map entryCodes = first.map entryCodes) : second = first := by
  induction first generalizing second with
  | nil => exact List.map_eq_nil_iff.mp same
  | cons entry rest inductionHypothesis =>
      obtain ⟨entry', rest', rfl, entrySame, restSame⟩ := List.map_eq_cons_iff.mp same
      obtain ⟨keySame, contentSame⟩ := Prod.mk.inj entrySame
      obtain ⟨keyText, contentText⟩ := texts entry List.mem_cons_self
      congr 1
      · exact Prod.ext (eq_of_isText_of_codes?_eq keyText keySame)
          (eq_of_isText_of_codes?_eq contentText contentSame)
      · exact inductionHypothesis (fun held member => texts held (List.mem_cons_of_mem _ member))
          restSame

end Value

theorem Fault.placed_codes (place text : String) :
    placed place (Text.codes text) = Text.codes (place ++ ": " ++ text) := by
  simp [placed, Text.codes]

theorem Fault.text?_resource (codes : List Nat) (cause : Option Fault) :
    (Fault.raised .resource [.ofCodes codes] cause).text? = some codes :=
  Value.text?_of_codes? (Value.codes?_ofCodes codes)

end InDoubt
