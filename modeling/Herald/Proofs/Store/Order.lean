import Herald.Store.Order
import Mathlib.Order.RelClasses
import Mathlib.Data.List.Sort
/-!
The order by date and number is total, and what comes first in it does so before all others.
-/

set_option autoImplicit false

namespace Herald

instance : IsStrictTotalOrder Instant (· < ·) where
  trichotomous a b h h' := by
    obtain ⟨secs, nanos, _, _, _, _⟩ := a
    obtain ⟨secs', nanos', _, _, _, _⟩ := b
    simp only [Instant.lt_def, Instant.mk.injEq] at *
    omega
  irrefl a h := by
    rw [Instant.lt_def] at h
    omega
  trans a b c h h' := by
    rw [Instant.lt_def] at *
    omega

variable {α δ : Type} [LT δ] [DecidableLT δ] [DecidableEq δ] {date : α → δ} {number : α → Int}

theorem inOrder_iff {a b : α} : inOrder date number a b = true ↔
    date a < date b ∨ date a = date b ∧ number a ≤ number b := by
  simp [inOrder]

theorem earliestOf_eq_none {l : List α} : earliestOf date number l = none ↔ l = [] := by
  cases l with
  | nil => simp [earliestOf]
  | cons a l =>
    rw [earliestOf]
    split
    · simp
    · split <;> simp

theorem earliestOf_map {β ε : Type} [LT ε] [DecidableLT ε] [DecidableEq ε] {date' : β → ε}
    {number' : β → Int} {f : β → α} {l : List β}
    (alike : ∀ a ∈ l, ∀ b ∈ l, inOrder date number (f a) (f b) = inOrder date' number' a b) :
    earliestOf date number (l.map f) = (earliestOf date' number' l).map f := by
  induction l with
  | nil => rfl
  | cons a l ih =>
    have hl := ih fun b hb c hc => alike b (List.mem_cons_of_mem a hb) c (List.mem_cons_of_mem a hc)
    rw [List.map_cons, earliestOf, earliestOf, hl]
    cases hb : earliestOf date' number' l with
    | none => rfl
    | some b =>
      simp only [Option.map_some, apply_ite (Option.map f)]
      rw [alike a List.mem_cons_self b (List.mem_cons_of_mem a (mem_of_earliestOf hb))]

variable [IsStrictTotalOrder δ (· < ·)]

theorem inOrder_trans {a b c : α} (h : inOrder date number a b = true)
    (h' : inOrder date number b c = true) : inOrder date number a c = true := by
  rw [inOrder_iff] at *
  rcases h with h | ⟨h, hn⟩
  · rcases h' with h' | ⟨h', -⟩
    · exact .inl (IsTrans.trans _ _ _ h h')
    · exact .inl (h' ▸ h)
  · rcases h' with h' | ⟨h', hn'⟩
    · exact .inl (h ▸ h')
    · exact .inr ⟨h.trans h', Int.le_trans hn hn'⟩

theorem inOrder_total (a b : α) :
    inOrder date number a b = true ∨ inOrder date number b a = true := by
  rw [inOrder_iff, inOrder_iff]
  rcases trichotomous_of (· < ·) (date a) (date b) with h | h | h
  · exact .inl (.inl h)
  · exact (Int.le_total (number a) (number b)).imp (fun hn => .inr ⟨h, hn⟩) fun hn =>
      .inr ⟨h.symm, hn⟩
  · exact .inr (.inl h)

theorem inOrder_of_earliestOf {l : List α} {a b : α}
    (h : earliestOf date number l = some a) (hb : b ∈ l) :
    inOrder date number a b = true := by
  induction l generalizing a b with
  | nil => cases h
  | cons c l ih =>
    have hself : inOrder date number c c = true := (inOrder_total c c).elim id id
    rw [earliestOf] at h
    split at h
    · next hl =>
      cases h
      rw [earliestOf_eq_none.1 hl] at hb
      exact List.mem_singleton.1 hb ▸ hself
    · next d hd =>
      split at h
      · next hcd =>
        cases h
        rcases List.mem_cons.1 hb with rfl | hb
        · exact hself
        · exact inOrder_trans hcd (ih hd hb)
      · next hcd =>
        cases h
        rcases List.mem_cons.1 hb with rfl | hb
        · exact (inOrder_total _ _).resolve_right hcd
        · exact ih hd hb

theorem pairwise_latest {l : List α} (distinct : l.Pairwise fun a b => number a < number b) :
    (l.mergeSort fun a b => inOrder date number b a).Pairwise fun a b =>
      (date b < date a ∨ date a = date b ∧ number b < number a) ∧ number a ≠ number b := by
  let later (a b : α) : Bool := inOrder date number b a
  have later_trans (a b c : α) (h : later a b = true) (h' : later b c = true) : later a c = true :=
    inOrder_trans h' h
  have later_total (a b : α) : (later a b || later b a) = true := by
    rw [Bool.or_eq_true]
    exact inOrder_total b a
  have sorted : (l.mergeSort later).Pairwise fun a b => later a b = true :=
    List.pairwise_mergeSort later_trans later_total l
  have apart : (l.mergeSort later).Pairwise fun a b => number a ≠ number b :=
    (List.mergeSort_perm l later).symm.pairwise (distinct.imp Int.ne_of_lt) fun h => h.symm
  refine (sorted.and apart).imp ?_
  rintro a b ⟨h, hne⟩
  rcases inOrder_iff.1 h with h | ⟨h, hle⟩
  · exact ⟨.inl h, hne⟩
  · exact ⟨.inr ⟨h.symm, Int.lt_iff_le_and_ne.2 ⟨hle, hne.symm⟩⟩, hne⟩

end Herald
