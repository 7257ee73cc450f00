import Herald.Text.Blank
import Mathlib.Data.List.DropRight
/-!
Trimming takes blanks off the ends of a text and nothing else.
-/

set_option autoImplicit false

namespace Herald.Text

variable {a b s : List Char} {c : Char}

@[simp] theorem allBlank_nil : allBlank [] = true := rfl

@[simp] theorem allBlank_cons : allBlank (c :: s) = (isBlank c && allBlank s) := rfl

@[simp] theorem allBlank_append : allBlank (a ++ b) = (allBlank a && allBlank b) := List.all_append

theorem allBlank_eq_false_iff : allBlank s = false ↔ ∃ c ∈ s, isBlank c = false := by
  simp [allBlank]

theorem trimEnd_eq (s : List Char) : trimEnd s = s.rdropWhile isBlank := rfl

theorem trimEnd_concat_of_blank (h : isBlank c = true) (s : List Char) :
    trimEnd (s ++ [c]) = trimEnd s := List.rdropWhile_concat_pos _ _ _ h

theorem trimEnd_concat (h : isBlank c = false) (s : List Char) : trimEnd (s ++ [c]) = s ++ [c] :=
  List.rdropWhile_concat_neg _ _ _ (by simp [h])

theorem trimEnd_append_of_blank (h : allBlank b = true) (a : List Char) :
    trimEnd (a ++ b) = trimEnd a := by
  induction b using List.reverseRecOn with
  | nil => rw [List.append_nil]
  | append_singleton b c ih =>
    simp only [allBlank_append, allBlank_cons, allBlank_nil, Bool.and_true, Bool.and_eq_true] at h
    rw [← List.append_assoc, trimEnd_concat_of_blank h.2, ih h.1]

theorem trimEnd_append (h : allBlank b = false) (a : List Char) :
    trimEnd (a ++ b) = a ++ trimEnd b := by
  induction b using List.reverseRecOn with
  | nil => cases h
  | append_singleton b c ih =>
    rw [← List.append_assoc]
    cases hc : isBlank c with
    | false => rw [trimEnd_concat hc, trimEnd_concat hc, List.append_assoc]
    | true =>
      rw [trimEnd_concat_of_blank hc, trimEnd_concat_of_blank hc]
      exact ih (by simpa [hc] using h)

theorem getLast?_trimEnd (h : (trimEnd s).getLast? = some c) : isBlank c = false := by
  induction s using List.reverseRecOn with
  | nil => cases h
  | append_singleton s d ih =>
    cases hd : isBlank d with
    | true => exact ih (trimEnd_concat_of_blank hd s ▸ h)
    | false =>
      rw [trimEnd_concat hd, List.getLast?_concat, Option.some.injEq] at h
      exact h ▸ hd

theorem trimEnd_eq_self_iff : trimEnd s = s ↔ ∀ c, s.getLast? = some c → isBlank c = false := by
  constructor
  · intro h c hc
    rw [← h] at hc
    exact getLast?_trimEnd hc
  · intro h
    rw [trimEnd_eq, List.rdropWhile_eq_self_iff]
    intro hs
    simp [h _ (List.getLast?_eq_some_getLast hs)]

theorem trimEnd_trimEnd (s : List Char) : trimEnd (trimEnd s) = trimEnd s :=
  trimEnd_eq_self_iff.2 fun _ => getLast?_trimEnd

theorem allBlank_trimEnd (s : List Char) : allBlank (trimEnd s) = allBlank s := by
  induction s using List.reverseRecOn with
  | nil => rfl
  | append_singleton s c ih =>
    cases hc : isBlank c with
    | true => simp [trimEnd_concat_of_blank hc, ih, hc]
    | false => rw [trimEnd_concat hc]

theorem trimEnd_isPrefix (s : List Char) : trimEnd s <+: s := List.rdropWhile_prefix isBlank s

theorem trimStart_cons (h : isBlank c = false) (r : List Char) : trimStart (c :: r) = c :: r := by
  simp [trimStart, h]

theorem trimStart_cons_of_blank (h : isBlank c = true) (r : List Char) :
    trimStart (c :: r) = trimStart r := by
  simp [trimStart, h]

theorem head?_trimStart (h : (trimStart s).head? = some c) : isBlank c = false := by
  induction s with
  | nil => cases h
  | cons d s ih =>
    cases hd : isBlank d with
    | true => exact ih (trimStart_cons_of_blank hd s ▸ h)
    | false =>
      rw [trimStart_cons hd, List.head?_cons, Option.some.injEq] at h
      exact h ▸ hd

theorem trimStart_eq_self_iff : trimStart s = s ↔ ∀ c, s.head? = some c → isBlank c = false := by
  constructor
  · intro h c hc
    rw [← h] at hc
    exact head?_trimStart hc
  · intro h
    cases s with
    | nil => rfl
    | cons c s => exact trimStart_cons (h c rfl) s

theorem head?_trim (h : (trim s).head? = some c) : isBlank c = false := by
  obtain ⟨r, hr⟩ := trimEnd_isPrefix (trimStart s)
  refine head?_trimStart (s := s) ?_
  rw [← hr, List.head?_append]
  rw [trim] at h
  rw [h, Option.some_or]

theorem trim_eq_self_iff : trim s = s ↔ trimStart s = s ∧ trimEnd s = s := by
  constructor
  · intro h
    refine ⟨trimStart_eq_self_iff.2 fun c hc => ?_, trimEnd_eq_self_iff.2 fun c hc => ?_⟩
    · rw [← h] at hc
      exact head?_trim hc
    · rw [← h] at hc
      exact getLast?_trimEnd hc
  · rintro ⟨hs, he⟩
    rw [trim, hs, he]

theorem trim_trim (s : List Char) : trim (trim s) = trim s :=
  trim_eq_self_iff.2 ⟨trimStart_eq_self_iff.2 fun _ => head?_trim, trimEnd_trimEnd _⟩

theorem mem_of_mem_trim (h : c ∈ trim s) : c ∈ s :=
  (List.dropWhile_sublist isBlank).subset ((trimEnd_isPrefix _).subset h)

end Herald.Text
