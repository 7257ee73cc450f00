import Herald.Proofs.Time.Delay
import Herald.Proofs.Store.Records
import Herald.Proofs.Store.Retention
/-!
Dates in stores: a queued notification is never found earlier than it was put off to, as far as the
store keeps dates at all, and no other record comes forward when one is put off.
-/

set_option autoImplicit false

namespace Herald

namespace Store

variable {S : Type} [Store S]

def NotBefore (id : Int) (b : Instant) (s : S) : Prop :=
  ∀ n, Store.get id s = .ok (some n) → n.push.state = .queued → b ≤ n.push.date

/-- The store finds notifications by their numbers, and puts them off as it is told; `kept` is how
it keeps dates. -/
structure Punctual (S : Type) [Store S] (kept : Instant → Instant) : Prop where
  id_of_get : ∀ {s : S} {id n}, Store.get id s = .ok (some n) → n.id = some id
  postponed : ∀ {s t : S} {id n}, n.id = some id → Store.update n s = (.ok (), t) →
    NotBefore id (kept n.push.date) t
  others : ∀ {s : S} {id b n}, n.id ≠ some id → NotBefore id b s →
  NotBefore id b (Store.update n s).2
  refused : ∀ {s t : S} {n f}, Store.update n s = (.error f, t) → t = s
  fetched : ∀ {s : S} {id b} now, NotBefore id b s → NotBefore id b (Store.getNext now s).2

end Store

theorem MemoryStore.punctual : Store.Punctual MemoryStore id where
  id_of_get h := id_of_find? (Except.ok.inj h)
  postponed {s t i n} hid h := by
    intro m hm _
    simp only [Store.update, hid] at h
    cases hf : s.find? i with
    | none =>
      rw [hf] at h
      cases h
    | some r =>
      rw [hf] at h
      cases h
      have hm := Except.ok.inj hm
      rw [find?_replace, if_pos rfl, hf] at hm
      cases hm
      exact Instant.le_refl _
  others {s i b n} hid h := by
    intro m hm
    simp only [Store.update] at hm
    split at hm
    · exact h m hm
    · next j hj =>
      split at hm
      · exact h m hm
      · have hne : i ≠ j := fun he => hid (he ▸ hj)
        have hm := Except.ok.inj hm
        rw [find?_replace, if_neg hne] at hm
        exact h m (congrArg Except.ok hm)
  refused {s t n f} h := by
    simp only [Store.update] at h
    split at h
    · cases h
      rfl
    · split at h <;> cases h
      rfl
  fetched _ h := h

theorem Row.columns_of_notification [Objections] {r : Row} {n : Notification}
    (h : r.notification = .ok n) :
    n.id = some r.id ∧ n.push.state = r.pushState ∧ n.push.date = .ofMillis r.pushDate := by
  simp only [notification] at h
  split at h
  · cases h
  · cases h
    exact ⟨rfl, rfl, rfl⟩

namespace Table

variable {t : Table} {id : Int} {n : Notification} {b : Instant}

theorem get_eq_some [Objections] : Store.get id t = .ok (some n) ↔
    ∃ r, t.find? id = some r ∧ r.notification = .ok n := by
  simp only [Store.get]
  cases t.find? id with
  | none => simp
  | some r => cases hr : r.notification <;> simp [Except.map, hr]

theorem get_of_find?_eq [Objections] {t' : Table} (h : t'.find? id = t.find? id) :
    (Store.get id t' : Except Fault _) = Store.get id t := by
  simp only [Store.get, h]

theorem notBefore_giveUp [Objections] {i now : Int} {f : Fault} (h : Store.NotBefore id b t) :
    Store.NotBefore id b (t.giveUp i now f) := by
  intro n hn hq
  obtain ⟨r, hr, hrn⟩ := get_eq_some.1 hn
  simp only [giveUp, find?_change] at hr
  split at hr
  · -- what is given up is not queued
    obtain ⟨old, _, rfl⟩ := Option.map_eq_some_iff.1 hr
    rw [(Row.columns_of_notification hrn).2.1] at hq
    cases hq
  · exact h n (get_eq_some.2 ⟨r, hr, hrn⟩) hq

theorem notBefore_next [Objections] (now : Int) (h : Store.NotBefore id b t) :
    Store.NotBefore id b (t.next now).2 := by
  fun_induction next now t with
  | case1 => exact h
  | case2 => exact h
  | case3 t r hr f hf ih => exact ih (notBefore_giveUp h)

theorem punctual [Objections] : Store.Punctual Table Instant.truncated where
  id_of_get {t i n} h := by
    obtain ⟨r, hr, hn⟩ := get_eq_some.1 h
    have hi : r.id = i := by simpa using List.find?_some hr
    rw [(Row.columns_of_notification hn).1, hi]
  postponed {t t' i n} hid h := by
    intro m hm _
    obtain ⟨old, hold, rfl⟩ := eq_of_update hid h
    obtain ⟨r, hr, hrn⟩ := get_eq_some.1 hm
    rw [find?_overwritten hold] at hr
    cases hr
    rw [(Row.columns_of_notification hrn).2.2]
    exact Instant.le_refl _
  others {t i b n} hid h := by
    intro m hm
    cases hu : Store.update n t with
    | mk a t' =>
      rw [hu] at hm
      cases a with
      | error f =>
        rw [eq_of_update_error hu] at hm
        exact h m hm
      | ok =>
        cases hn : n.id with
        | none =>
          simp only [Store.update, hn] at hu
          cases hu
        | some j =>
          obtain ⟨old, _, rfl⟩ := eq_of_update hn hu
          have hne : i ≠ j := fun he => hid (he ▸ hn)
          rw [get_of_find?_eq ((find?_change _ i).trans (if_neg hne))] at hm
          exact h m hm
  refused h := eq_of_update_error h
  fetched now h := notBefore_next _ h

end Table

end Herald
