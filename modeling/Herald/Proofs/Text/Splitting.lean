import Herald.Text.Lines
/-!
A text cut at each separator: the pieces are the only ones without separators that it is put
together from.
-/

set_option autoImplicit false

namespace Herald.Text

variable {sep : Char} {s : List Char} {ps : List (List Char)}

theorem splitOnChar_eq (sep : Char) (s : List Char) : splitOnChar sep s = s.splitOn sep := by
  induction s with
  | nil => rfl
  | cons c s ih =>
    rw [List.splitOn_cons_eq_if_modifyHead, ← ih, splitOnChar]
    by_cases hc : c = sep
    · rw [if_pos hc, if_pos (beq_iff_eq.2 hc)]
    · rw [if_neg hc, if_neg (by simpa using hc)]
      cases h : splitOnChar sep s with
      | nil => exact absurd h (splitOnChar_ne_nil sep s)
      | cons p ps => rfl

theorem not_mem_of_mem_splitOnChar (s : List Char) : ∀ p ∈ splitOnChar sep s, sep ∉ p := by
  induction s with
  | nil => simp [splitOnChar]
  | cons c s ih =>
    rw [splitOnChar]
    split
    · exact List.forall_mem_cons.2 ⟨List.not_mem_nil, ih⟩
    · next hc =>
      split
      · next h => exact absurd h (splitOnChar_ne_nil sep s)
      · next p ps h =>
        rw [h] at ih
        obtain ⟨hp, hps⟩ := List.forall_mem_cons.1 ih
        exact List.forall_mem_cons.2 ⟨List.not_mem_cons_of_ne_of_not_mem (Ne.symm hc) hp, hps⟩

theorem splitOnChar_eq_iff :
    splitOnChar sep s = ps ↔ ps ≠ [] ∧ (∀ p ∈ ps, sep ∉ p) ∧ s = [sep].intercalate ps := by
  constructor
  · rintro rfl
    exact ⟨splitOnChar_ne_nil sep s, not_mem_of_mem_splitOnChar s,
      by rw [splitOnChar_eq, List.intercalate_splitOn]⟩
  · rintro ⟨hne, hps, rfl⟩
    rw [splitOnChar_eq, List.splitOn_intercalate sep hps hne]

end Herald.Text
