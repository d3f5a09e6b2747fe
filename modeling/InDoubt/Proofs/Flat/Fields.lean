import InDoubt.Branch.Flat
import InDoubt.Proofs.Base64.RoundTrip

namespace InDoubt.Flat

theorem front_eq_of_append_cons {α : Type} {mark : α} {front front' rest rest' : List α}
    (clean : mark ∉ front) (clean' : mark ∉ front')
    (same : front ++ mark :: rest = front' ++ mark :: rest') : front = front' ∧ rest = rest' := by
  induction front generalizing front' with
  | nil =>
      cases front' with
      | nil => exact ⟨rfl, List.tail_eq_of_cons_eq same⟩
      | cons first' others' =>
          cases List.head_eq_of_cons_eq same
          exact absurd List.mem_cons_self clean'
  | cons first others othersSame =>
      cases front' with
      | nil =>
          cases List.head_eq_of_cons_eq same
          exact absurd List.mem_cons_self clean
      | cons first' others' =>
          obtain ⟨rfl, tailSame⟩ := List.cons_eq_cons.mp same
          obtain ⟨rfl, restSame⟩ := othersSame (List.not_mem_of_not_mem_cons clean)
            (List.not_mem_of_not_mem_cons clean') tailSame
          exact ⟨rfl, restSame⟩

theorem fields_of_not_mem {characters : List Char} (clean : separator ∉ characters) :
    fields characters = [characters] := by
  induction characters with
  | nil => rfl
  | cons character rest restDivided =>
      rw [List.mem_cons, not_or] at clean
      rw [fields, if_neg (Ne.symm clean.1), restDivided clean.2]

theorem fields_append {front : List Char} (rest : List Char) (clean : separator ∉ front) :
    fields (front ++ separator :: rest) = front :: fields rest := by
  induction front with
  | nil => rw [List.nil_append, fields, if_pos rfl]
  | cons character more moreDivided =>
      rw [List.mem_cons, not_or] at clean
      rw [List.cons_append, fields, if_neg (Ne.symm clean.1), moreDivided clean.2]

theorem fields_ne_nil (characters : List Char) : fields characters ≠ [] := by
  cases characters with
  | nil => simp [fields]
  | cons character rest =>
      rw [fields]
      split
      · exact List.cons_ne_nil _ _
      · split <;> exact List.cons_ne_nil _ _

/-- The first field has no separator, and either it is the whole text or the other fields are those
of what stands behind its separator. -/
theorem first_of_fields {characters first : List Char} {others : List (List Char)}
    (divided : fields characters = first :: others) :
    separator ∉ first ∧
      (others = [] ∧ characters = first ∨
        ∃ rest, characters = first ++ separator :: rest ∧ fields rest = others) := by
  induction characters generalizing first with
  | nil =>
      cases divided
      exact ⟨List.not_mem_nil, .inl ⟨rfl, rfl⟩⟩
  | cons character rest restFirst =>
      rw [fields] at divided
      split at divided
      · next isSeparator =>
        cases divided
        exact ⟨List.not_mem_nil, .inr ⟨rest, by rw [isSeparator, List.nil_append], rfl⟩⟩
      · next inside =>
        split at divided
        · next front others' restDivided =>
          cases divided
          obtain ⟨frontClean, reached⟩ := restFirst restDivided
          refine ⟨List.not_mem_cons_of_ne_of_not_mem (Ne.symm inside) frontClean, ?_⟩
          rcases reached with ⟨rfl, rfl⟩ | ⟨back, rfl, backDivided⟩
          · exact .inl ⟨rfl, rfl⟩
          · exact .inr ⟨back, rfl, backDivided⟩
        · next noFields => exact absurd noFields (fields_ne_nil rest)

theorem isDigit_iff {character : Char} :
    character.isDigit = true ↔ 0x30 ≤ character.toNat ∧ character.toNat ≤ 0x39 := by
  simp [Char.isDigit, UInt32.le_iff_toNat_le]

theorem separator_not_mem_digits {digits : List Char} (numeric : digits.all Char.isDigit = true) :
    separator ∉ digits := by
  intro member
  have digit := List.all_eq_true.mp numeric separator member
  exact absurd digit (by decide)

theorem fields_join {shape : Shape} (numeric : shape.digits.all Char.isDigit = true)
    (gtridClean : separator ∉ shape.gtrid) (bqualClean : separator ∉ shape.bqual) :
    fields shape.join = [shape.digits, shape.gtrid, shape.bqual] := by
  rw [Shape.join, fields_append _ (separator_not_mem_digits numeric), fields_append _ gtridClean,
    fields_of_not_mem bqualClean]

theorem shape?_join {shape : Shape} (nonempty : shape.digits ≠ [])
    (numeric : shape.digits.all Char.isDigit = true) (gtridClean : separator ∉ shape.gtrid)
    (bqualClean : separator ∉ shape.bqual) : shape? shape.join = some shape := by
  unfold shape?
  rw [fields_join numeric gtridClean bqualClean]
  have someDigits : shape.digits.isEmpty = false := by simpa using nonempty
  simp only [someDigits, numeric, Bool.not_false, Bool.and_self, if_true]

theorem shape?_eq_some_iff {characters : List Char} {shape : Shape} :
    shape? characters = some shape ↔
      shape.join = characters ∧ shape.digits ≠ [] ∧ shape.digits.all Char.isDigit = true ∧
        separator ∉ shape.gtrid ∧ separator ∉ shape.bqual := by
  constructor
  · intro matched
    unfold shape? at matched
    split at matched
    · next digits gtrid bqual divided =>
      split at matched
      · next digitsMatch =>
        cases matched
        obtain ⟨someDigits, numeric⟩ := Bool.and_eq_true_iff.mp digitsMatch
        have nonempty : digits ≠ [] := by simpa using someDigits
        -- The last of the three fields is the whole rest; the others end at a separator.
        obtain ⟨-, ⟨absent, -⟩ | ⟨rest, rfl, restDivided⟩⟩ := first_of_fields divided
        · cases absent
        obtain ⟨gtridClean, ⟨absent, -⟩ | ⟨last, rfl, lastDivided⟩⟩ := first_of_fields restDivided
        · cases absent
        obtain ⟨bqualClean, ⟨-, rfl⟩ | ⟨beyond, -, beyondDivided⟩⟩ := first_of_fields lastDivided
        · exact ⟨rfl, nonempty, numeric, gtridClean, bqualClean⟩
        · exact absurd beyondDivided (fields_ne_nil beyond)
      · cases matched
    · cases matched
  · rintro ⟨rfl, nonempty, numeric, gtridClean, bqualClean⟩
    exact shape?_join nonempty numeric gtridClean bqualClean

theorem shape?_characters (triple : Triple) :
    shape? (characters triple) = some (Shape.ofTriple triple) := by
  apply shape?_join
  · exact Nat.toDigits_ne_nil
  · exact List.all_eq_true.mpr fun _ => Nat.isDigit_of_mem_toDigits (by decide) (by decide)
  · exact Base64.underscore_not_mem_encode _
  · exact Base64.underscore_not_mem_encode _

end InDoubt.Flat
