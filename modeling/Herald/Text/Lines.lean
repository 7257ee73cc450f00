/-!
Lines end at a line feed, or at a carriage return followed by one; a last line needs no end, and
no text is no line.
-/

set_option autoImplicit false

namespace Herald.Text

def lines : List Char → List (List Char)
  | [] => []
  | '\n' :: r => [] :: lines r
  | '\r' :: '\n' :: r => [] :: lines r
  | c :: r =>
    match lines r with
    | [] => [[c]]
    | l :: ls => (c :: l) :: ls

def unlines (ls : List (List Char)) : List Char := List.intercalate ['\n'] ls

/-- The pieces between the members of a class; one more than there are members. -/
def splitOnChar (sep : Char) : List Char → List (List Char)
  | [] => [[]]
  | c :: r =>
    if c = sep then [] :: splitOnChar sep r
    else match splitOnChar sep r with
      | [] => [[c]]
      | p :: ps => (c :: p) :: ps

theorem splitOnChar_ne_nil (sep : Char) (s : List Char) : splitOnChar sep s ≠ [] := by
  cases s with
  | nil => simp [splitOnChar]
  | cons c r => grind [splitOnChar]

def cut? (sep : Char) : List Char → Option (List Char × List Char)
  | [] => none
  | c :: r => if c = sep then some ([], r) else (cut? sep r).map fun p => (c :: p.1, p.2)

theorem cut?_eq_none_iff {sep : Char} {s : List Char} : cut? sep s = none ↔ sep ∉ s := by
  induction s with
  | nil => simp [cut?]
  | cons c r ih =>
    simp only [cut?]
    split
    · next h => simp [h]
    · next h => simp [ih, Ne.symm h]

theorem append_of_cut? {sep : Char} {s a b : List Char} (h : cut? sep s = some (a, b)) :
    s = a ++ sep :: b ∧ sep ∉ a := by
  induction s generalizing a with
  | nil => simp [cut?] at h
  | cons c r ih =>
    simp only [cut?] at h
    split at h
    · next hc => simp_all
    · next hc =>
      simp only [Option.map_eq_some_iff, Prod.mk.injEq, Prod.exists] at h
      obtain ⟨x, y, hr, rfl, rfl⟩ := h
      obtain ⟨h1, h2⟩ := ih hr
      simp [h1, h2, Ne.symm hc]

theorem cut?_of_not_mem {sep : Char} {a : List Char} (h : sep ∉ a) (b : List Char) :
    cut? sep (a ++ sep :: b) = some (a, b) := by
  induction a with
  | nil => simp [cut?]
  | cons c a ih =>
    rw [List.mem_cons, not_or] at h
    rw [List.cons_append, cut?, if_neg (Ne.symm h.1), ih h.2, Option.map_some]

end Herald.Text
