import InDoubt.Proofs.Branch.Canonical
import InDoubt.Proofs.Flat.Failure

namespace InDoubt.BranchId

theorem read_eq_verbatim_iff {given : Value} (isText : given.isText = true) :
    Form.read given = .ok (.verbatim given) ↔ Flat.Failure given := by
  cases given with
  | text text =>
      rw [Flat.failure_iff]
      obtain ⟨found, parsed⟩ := Flat.parse_total text
      cases found with
      | none => simp [Form.read, Form.ofText, parsed]
      | some triple => simp [Form.read, Form.ofText, parsed]
  | brokenText codes broken => exact ⟨fun _ => .surrogate codes broken, fun _ => rfl⟩
  | _ => simp [Value.isText, Value.codes?] at isText

theorem decode_lossless {given : Value} (isText : given.isText = true) :
    (∃ id, decode given = .ok id ∧ id.encode = .ok given) ∧
      (Flat.Failure given ↔ decode given = .ok (ofForm (.verbatim given))) ∧
      ∀ other id otherId, decode given = .ok id → decode other = .ok otherId →
        (id == otherId) = true → given = other := by
  obtain ⟨form, found⟩ := Form.read_total isText
  obtain ⟨canonical, unchanged⟩ := Form.canonical_of_read found
  have decoded : decode given = .ok (ofForm form) := by
    apply decode_eq_ok_iff.mpr
    exact ⟨form, found, rfl⟩
  refine ⟨⟨ofForm form, decoded, ?_⟩, ?_, ?_⟩
  · exact Form.encode_of_read found
  · rw [← read_eq_verbatim_iff isText, decode_eq_ok_iff]
    constructor
    · intro verbatim
      exact ⟨.verbatim given, verbatim, rfl⟩
    · intro verbatim
      obtain ⟨form', found', same⟩ := verbatim
      cases congrArg BranchId.form same
      exact found'
  · intro other id otherId decoded' otherDecoded equal
    cases decoded.symm.trans decoded'
    obtain ⟨otherForm, otherFound, rfl⟩ := decode_eq_ok_iff.mp otherDecoded
    obtain ⟨otherCanonical, otherUnchanged⟩ := Form.canonical_of_read otherFound
    rw [← unchanged, ← otherUnchanged]
    apply (Form.same_iff_flat_eq canonical otherCanonical).mp
    exact equal

theorem decode_lossless_leading_zero :
    (Value.text "01_Zw==_Yg==").isText = true ∧
      decode (.text "01_Zw==_Yg==") = .ok (ofForm (.verbatim (.text "01_Zw==_Yg=="))) := by
  have matched : Flat.shape? "01_Zw==_Yg==".toList =
      some ⟨['0', '1'], ['Z', 'w', '=', '='], ['Y', 'g', '=', '=']⟩ := by decide
  have spelled : Flat.Shape.triple ⟨['0', '1'], ['Z', 'w', '=', '='], ['Y', 'g', '=', '=']⟩ =
      .ok ⟨⟨1, none⟩, "g", "b"⟩ := rfl
  have different : Flat.write ⟨⟨1, none⟩, "g", "b"⟩ ≠ "01_Zw==_Yg==" := by decide
  refine ⟨rfl, ?_⟩
  exact (decode_lossless rfl).2.1.mp (.respelled matched spelled different)

end InDoubt.BranchId
