import Herald.Text.Lines
import Herald.Text.Quoted
/-!
Quotations can be told apart: whatever a text is, its quotation ends where it seems to, and no other
text is quoted like it.
-/

set_option autoImplicit false

namespace Herald.Text

theorem append_cons_inj {sep : Char} {a b r s : List Char} (ha : sep ∉ a) (hb : sep ∉ b)
    (h : a ++ sep :: r = b ++ sep :: s) : a = b ∧ r = s := by
  have hcut := cut?_of_not_mem ha r
  rw [h, cut?_of_not_mem hb] at hcut
  simpa [eq_comm] using hcut

theorem digitChar_inj : ∀ m < 16, ∀ n < 16, m.digitChar = n.digitChar → m = n := by decide

theorem toDigits_inj {m n : Nat} (h : Nat.toDigits 16 m = Nat.toDigits 16 n) : m = n := by
  induction m using Nat.strongRecOn generalizing n with
  | ind m ih =>
    rw [Nat.toDigits_eq_if (by decide), Nat.toDigits_eq_if (b := 16) (n := n) (by decide)] at h
    split at h <;> split at h
    · next hm hn => exact digitChar_inj m hm n hn (List.cons.inj h).1
    · next hn => simpa using congrArg List.length h
    · simpa using congrArg List.length h
    · obtain ⟨hinit, hlast⟩ := List.append_inj' h rfl
      have hdiv := ih (m / 16) (by omega) hinit
      have hmod := digitChar_inj (m % 16) (by omega) (n % 16) (by omega) (List.cons.inj hlast).1
      omega

theorem brace_not_mem_toDigits (n : Nat) : '\x7d' ∉ Nat.toDigits 16 n := by
  have digits : ∀ m < 16, m.digitChar ≠ '\x7d' := by decide
  induction n using Nat.strongRecOn with
  | ind n ih =>
    rw [Nat.toDigits_eq_if (by decide)]
    split
    · next hn => exact mt List.mem_singleton.1 (digits n hn).symm
    · rw [List.mem_append, not_or, List.mem_singleton]
      exact ⟨ih (n / 16) (by omega), (digits (n % 16) (by omega)).symm⟩

/-- Those that are shown by another character, after a backslash. -/
def marks : List (Char × Char) :=
  [('"', '"'), ('\\', '\\'), ('\n', 'n'), ('\r', 'r'), ('\t', 't'), ('\x00', '0')]

/-- A character stands for itself, is marked, or is given by its number. -/
inductive Shown : Char → List Char → Prop where
  | plain {c : Char} (quote : c ≠ '"') (slash : c ≠ '\\') : Shown c [c]
  | marked {c m : Char} (h : (c, m) ∈ marks) : Shown c ['\\', m]
  | numbered (c : Char) : Shown c ('\\' :: 'u' :: '\x7b' :: Nat.toDigits 16 c.toNat ++ ['\x7d'])

variable {c d : Char} {p q r s : List Char}

theorem shown_shown (c : Char) : Shown c (shown c) := by
  unfold shown
  split
  case h_7 quote slash _ _ _ _ =>
    split
    · exact .numbered c
    · exact .plain quote slash
  all_goals exact .marked (by decide)

theorem mark_inj : ∀ a ∈ marks, ∀ b ∈ marks, a.2 = b.2 → a.1 = b.1 := by decide

theorem ne_u_of_mem_marks : ∀ a ∈ marks, a.2 ≠ 'u' := by decide

theorem Shown.append_inj (hc : Shown c p) (hd : Shown d q) (h : p ++ r = q ++ s) :
    c = d ∧ r = s := by
  cases hc with
  | plain _ slash =>
    cases hd with
    | plain => simpa using h
    | marked => exact absurd (List.cons.inj h).1 slash
    | numbered => exact absurd (List.cons.inj h).1 slash
  | marked hm =>
    cases hd with
    | plain _ slash => exact absurd (List.cons.inj h).1.symm slash
    | marked hn =>
      obtain ⟨hmn, hrs⟩ := List.cons.inj (List.cons.inj h).2
      exact ⟨mark_inj _ hm _ hn hmn, hrs⟩
    | numbered => exact absurd (List.cons.inj (List.cons.inj h).2).1 (ne_u_of_mem_marks _ hm)
  | numbered =>
    cases hd with
    | plain _ slash => exact absurd (List.cons.inj h).1.symm slash
    | marked hn => exact absurd (List.cons.inj (List.cons.inj h).2).1.symm (ne_u_of_mem_marks _ hn)
    | numbered =>
      simp only [List.cons_append, List.append_assoc, List.nil_append, List.cons.injEq,
        true_and] at h
      obtain ⟨hdigits, hrs⟩ :=
        append_cons_inj (brace_not_mem_toDigits _) (brace_not_mem_toDigits _) h
      exact ⟨Char.toNat_inj.1 (toDigits_inj hdigits), hrs⟩

theorem Shown.ne_quote (hc : Shown c p) : p ++ r ≠ '"' :: s := by
  intro h
  cases hc with
  | plain quote => exact quote (List.cons.inj h).1
  | marked => exact absurd (List.cons.inj h).1 (by decide)
  | numbered => exact absurd (List.cons.inj h).1 (by decide)

theorem flatMap_shown_inj : ∀ {a b : List Char},
    a.flatMap shown ++ '"' :: r = b.flatMap shown ++ '"' :: s → a = b ∧ r = s
  | [], [], h => ⟨rfl, (List.cons.inj h).2⟩
  | [], d :: b, h => by
    rw [List.flatMap_cons, List.append_assoc] at h
    exact absurd h.symm (shown_shown d).ne_quote
  | c :: a, [], h => by
    rw [List.flatMap_cons, List.append_assoc] at h
    exact absurd h (shown_shown c).ne_quote
  | c :: a, d :: b, h => by
    rw [List.flatMap_cons, List.flatMap_cons, List.append_assoc, List.append_assoc] at h
    obtain ⟨rfl, hrest⟩ := (shown_shown c).append_inj (shown_shown d) h
    obtain ⟨rfl, hrs⟩ := flatMap_shown_inj hrest
    exact ⟨rfl, hrs⟩

theorem inQuotes_append_inj {a b : String}
    (h : (inQuotes a).toList ++ r = (inQuotes b).toList ++ s) : a = b ∧ r = s := by
  simp only [inQuotes, String.toList_ofList, List.cons_append, List.append_assoc,
    List.nil_append, List.cons.injEq, true_and] at h
  obtain ⟨hab, hrs⟩ := flatMap_shown_inj h
  exact ⟨String.toList_inj.1 hab, hrs⟩

end Herald.Text
