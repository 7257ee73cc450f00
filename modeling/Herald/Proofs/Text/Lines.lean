import Herald.Text.Lines
import Mathlib.Data.List.TakeWhile
/-!
Texts and their lines: every text has just one list of lines, and it does not matter which of the
two ends its lines have.
-/

set_option autoImplicit false

namespace Herald.Text

variable {s l : List Char} {ls : List (List Char)} {c : Char}

/-- The text is made of these lines, each with its end; the last one may end with the text. -/
inductive Lined : List Char → List (List Char) → Prop where
  | nil : Lined [] []
  | last {l : List Char} (ne_nil : l ≠ []) (inner : '\n' ∉ l) : Lined l [l]
  | feed {l s : List Char} {ls : List (List Char)} (inner : '\n' ∉ l)
    (whole : l.getLast? ≠ some '\r') (rest : Lined s ls) : Lined (l ++ '\n' :: s) (l :: ls)
  | returnFeed {l s : List Char} {ls : List (List Char)} (inner : '\n' ∉ l) (rest : Lined s ls) :
      Lined (l ++ '\r' :: '\n' :: s) (l :: ls)

def Inner (c : Char) (s : List Char) : Prop := c ≠ '\n' ∧ (c = '\r' → s.head? ≠ some '\n')

theorem lines_cons (h : Inner c s) : lines (c :: s) =
    match lines s with
    | [] => [[c]]
    | l :: ls => (c :: l) :: ls := by
  refine lines.eq_4 c s h.1 fun r hc hs => ?_
  subst hs
  exact h.2 hc rfl

theorem lines_eq_nil_iff : lines s = [] ↔ s = [] := by
  fun_cases lines s <;> simp

theorem Lined.cons {l : List Char} (h : Inner c s) (hs : Lined s (l :: ls)) :
    Lined (c :: s) ((c :: l) :: ls) := by
  have mem {l : List Char} (hl : '\n' ∉ l) : '\n' ∉ c :: l := by simp [hl, h.1.symm]
  cases hs with
  | last ne_nil inner => exact .last (List.cons_ne_nil _ _) (mem inner)
  | returnFeed inner rest => exact .returnFeed (mem inner) rest
  | feed inner whole rest =>
    refine .feed (mem inner) ?_ rest
    cases l with
    | nil => simpa using fun hc => h.2 hc rfl
    | cons d l => simpa using whole

theorem lined_lines (s : List Char) : Lined s (lines s) := by
  fun_induction lines s with
  | case1 => exact .nil
  | case2 r ih => exact .feed (l := []) (by simp) (by simp) ih
  | case3 r ih => exact .returnFeed (l := []) (by simp) ih
  | case4 c r hn _ hr _ =>
    obtain rfl := lines_eq_nil_iff.1 hr
    exact .last (List.cons_ne_nil _ _) (by simpa using fun h => hn h.symm)
  | case5 c r hn hrn l ls hr ih =>
    refine Lined.cons ⟨by simpa using hn, fun hc hh => ?_⟩ (hr ▸ ih)
    cases r with
    | nil => cases hh
    | cons d r =>
      cases hh
      exact hrn r hc rfl

theorem lines_of_inner (h : '\n' ∉ l) (ne_nil : l ≠ []) : lines l = [l] := by
  induction l with
  | nil => exact absurd rfl ne_nil
  | cons c l ih =>
    rw [List.mem_cons, not_or] at h
    have hi : Inner c l := ⟨fun hc => h.1 hc.symm, fun _ hl => h.2 (List.mem_of_mem_head? hl)⟩
    cases l with
    | nil => rw [lines_cons hi]; rfl
    | cons d l => rw [lines_cons hi, ih h.2 (List.cons_ne_nil _ _)]

theorem lines_feed (h : '\n' ∉ l) (whole : l.getLast? ≠ some '\r') (s : List Char) :
    lines (l ++ '\n' :: s) = l :: lines s := by
  induction l with
  | nil => rfl
  | cons c l ih =>
    rw [List.mem_cons, not_or] at h
    cases l with
    | nil =>
      have hi : Inner c ('\n' :: s) := ⟨fun hc => h.1 hc.symm, fun hc => absurd (hc ▸ rfl) whole⟩
      rw [List.singleton_append, lines_cons hi]
      rfl
    | cons d l =>
      have hi : Inner c (d :: l ++ '\n' :: s) :=
        ⟨fun hc => h.1 hc.symm, fun _ hd => h.2 (by simp_all)⟩
      rw [List.cons_append, lines_cons hi, ih h.2 (by simpa using whole)]

theorem lines_returnFeed (h : '\n' ∉ l) (s : List Char) :
    lines (l ++ '\r' :: '\n' :: s) = l :: lines s := by
  induction l with
  | nil => rfl
  | cons c l ih =>
    rw [List.mem_cons, not_or] at h
    have hi : Inner c (l ++ '\r' :: '\n' :: s) := by
      refine ⟨fun hc => h.1 hc.symm, fun _ hd => h.2 ?_⟩
      cases l with
      | nil => cases hd
      | cons d l => simp_all
    rw [List.cons_append, lines_cons hi, ih h.2]

theorem Lined.lines_eq (h : Lined s ls) : lines s = ls := by
  induction h with
  | nil => rfl
  | last ne_nil inner => exact lines_of_inner inner ne_nil
  | feed inner whole rest ih => rw [lines_feed inner whole, ih]
  | returnFeed inner rest ih => rw [lines_returnFeed inner, ih]

/-- There is one way to part a text into lines. -/
theorem lined_iff : Lined s ls ↔ ls = lines s :=
  ⟨fun h => h.lines_eq.symm, fun h => h ▸ lined_lines s⟩

theorem Lined.inner (h : Lined s ls) : ∀ l ∈ ls, '\n' ∉ l := by
  induction h with
  | nil => simp
  | last _ inner => simpa using inner
  | feed inner _ _ ih => simpa using ⟨inner, ih⟩
  | returnFeed inner _ ih => simpa using ⟨inner, ih⟩

theorem Lined.mem (h : Lined s ls) (hl : l ∈ ls) (hc : c ∈ l) : c ∈ s := by
  induction h with
  | nil => cases hl
  | last => simp_all
  | feed _ _ _ ih =>
    rcases List.mem_cons.1 hl with rfl | hl
    · simp [hc]
    · simp [ih hl]
  | returnFeed _ _ ih =>
    rcases List.mem_cons.1 hl with rfl | hl
    · simp [hc]
    · simp [ih hl]

def withReturns (s : List Char) : List Char := s.flatMap fun c => if c = '\n'
    then ['\r', '\n'] else [c]

theorem withReturns_append (a b : List Char) :
    withReturns (a ++ b) = withReturns a ++ withReturns b :=
  List.flatMap_append

theorem withReturns_of_inner (h : '\n' ∉ l) : withReturns l = l := by
  induction l with
  | nil => rfl
  | cons c l ih =>
    rw [List.mem_cons, not_or] at h
    have hc : ¬ c = '\n' := fun hc => h.1 hc.symm
    have ih := ih h.2
    simp only [withReturns] at ih ⊢
    rw [List.flatMap_cons, ih, if_neg hc, List.singleton_append]

theorem Lined.withReturns (h : Lined s ls) (hr : '\r' ∉ s) : Lined (withReturns s) ls := by
  induction h with
  | nil => exact .nil
  | last ne_nil inner =>
    rw [withReturns_of_inner inner]
    exact .last ne_nil inner
  | @feed l s _ inner _ _ ih =>
    have hs : Text.withReturns (l ++ '\n' :: s) = l ++ '\r' :: '\n' :: Text.withReturns s := by
      rw [withReturns_append, withReturns_of_inner inner]
      rfl
    rw [hs]
    exact .returnFeed inner (ih (by simp_all))
  | returnFeed => simp at hr

theorem lines_withReturns (h : '\r' ∉ s) : lines (withReturns s) = lines s :=
  ((lined_lines s).withReturns h).lines_eq

@[simp] theorem unlines_singleton : unlines [l] = l := by simp [unlines]

@[simp] theorem unlines_cons_cons {k : List Char} :
    unlines (l :: k :: ls) = l ++ '\n' :: unlines (k :: ls) := by simp [unlines]

theorem exists_unlines_cons (l : List Char) (ls : List (List Char)) :
    ∃ s, unlines (l :: ls) = l ++ s := by
  cases ls with
  | nil => exact ⟨[], by simp⟩
  | cons k ls => exact ⟨_, unlines_cons_cons⟩

theorem mem_unlines (hl : l ∈ ls) (hc : c ∈ l) : c ∈ unlines ls := by
  induction ls with
  | nil => cases hl
  | cons k ls ih =>
    cases ls with
    | nil => simp_all
    | cons k' ls =>
      rw [unlines_cons_cons]
      rcases List.mem_cons.1 hl with rfl | hl
      · simp [hc]
      · simp [ih hl]

theorem eq_or_mem_of_mem_unlines (h : c ∈ unlines ls) : c = '\n' ∨ ∃ l ∈ ls, c ∈ l := by
  induction ls with
  | nil => cases h
  | cons k ls ih =>
    cases ls with
    | nil => exact .inr ⟨k, by simp, by simpa using h⟩
    | cons k' ls =>
      rw [unlines_cons_cons, List.mem_append, List.mem_cons] at h
      rcases h with h | h | h
      · exact .inr ⟨k, by simp, h⟩
      · exact .inl h
      · rcases ih h with h | ⟨l, hl, hc⟩
        · exact .inl h
        · exact .inr ⟨l, List.mem_cons_of_mem _ hl, hc⟩

theorem Lined.eq_unlines (h : Lined s ls) (hr : '\r' ∉ s) :
    s = unlines ls ∨ s = unlines ls ++ ['\n'] := by
  induction h with
  | nil => exact .inl rfl
  | last => exact .inl unlines_singleton.symm
  | returnFeed => simp at hr
  | @feed l s ls _ _ rest ih =>
    cases ls with
    | nil =>
      obtain rfl := lines_eq_nil_iff.1 rest.lines_eq
      exact .inr (by rw [unlines_singleton])
    | cons k ls =>
      rw [unlines_cons_cons, List.append_assoc, List.cons_append, List.append_cancel_left_eq,
        List.append_cancel_left_eq, List.cons_inj_right, List.cons_inj_right]
      exact ih (by simp_all)

def firstLine (s : List Char) : List Char := s.takeWhile (· ≠ '\n')

@[simp] theorem firstLine_nil : firstLine [] = [] := rfl

theorem firstLine_isPrefix (s : List Char) : firstLine s <+: s := List.takeWhile_prefix _

theorem feed_not_mem_firstLine (s : List Char) : '\n' ∉ firstLine s := fun h => by
  simpa using List.mem_takeWhile_imp h

theorem firstLine_append (h : '\n' ∉ l) (s : List Char) :
    firstLine (l ++ s) = l ++ firstLine s := by
  refine List.takeWhile_append_of_pos fun c hc => ?_
  rw [decide_eq_true_eq]
  rintro rfl
  exact h hc

theorem firstLine_of_inner (h : '\n' ∉ l) : firstLine l = l := by
  have hl := firstLine_append h []
  rwa [firstLine_nil, List.append_nil] at hl

theorem firstLine_cases (s : List Char) : s = firstLine s ∨ ∃ r, s = firstLine s ++ '\n' :: r := by
  induction s with
  | nil => exact .inl rfl
  | cons c s ih =>
    by_cases hc : c = '\n'
    · subst hc
      exact .inr ⟨s, rfl⟩
    · have hf : firstLine (c :: s) = c :: firstLine s :=
        firstLine_append (l := [c]) (by simpa using Ne.symm hc) s
      rw [hf]
      rcases ih with ih | ⟨r, ih⟩
      · exact .inl (congrArg (c :: ·) ih)
      · exact .inr ⟨r, congrArg (c :: ·) ih⟩

theorem Lined.head?_eq (h : Lined s ls) (hr : '\r' ∉ s) (ne_nil : s ≠ []) :
    ls.head? = some (firstLine s) := by
  cases h with
  | nil => exact absurd rfl ne_nil
  | last _ inner => rw [firstLine_of_inner inner, List.head?_cons]
  | returnFeed => simp at hr
  | feed inner => rw [firstLine_append inner, List.head?_cons]; simp [firstLine]

end Herald.Text
