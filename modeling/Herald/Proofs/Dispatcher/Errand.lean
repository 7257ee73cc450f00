import Herald.Dispatcher
import Herald.Proofs.Store.Records
/-!
Errands over a store in memory: what each begins with, and what it writes down at its end.
-/

set_option autoImplicit false

namespace Herald

namespace Errand

variable {α β : Type} {id : Int} {n m : Notification} {o : Outcome} {p : RetryPolicy}
  {now : Instant} {s : MemoryStore}

theorem start_fresh_eq_inr {S : Type} [Store S] {s : S} :
    (fresh n : Errand S _).start now s = .inr m ↔ m = n ∧ n.push.state = .queued := by
  cases hs : n.push.state with
  | queued => simp only [fresh, hs, and_true]; exact ⟨fun h => (Sum.inr.inj h).symm,
    fun h => h ▸ rfl⟩
  | pushed => simp [fresh, PushState.isTerminal, hs]
  | undeliverable => simp [fresh, PushState.isTerminal, hs]

theorem start_fresh_eq_inl {S : Type} [Store S] {s : S} {r : Except Fault Notification} :
    (fresh n : Errand S _).start now s = .inl r ↔
      r = .error (.invalid (.terminal n.push.state)) ∧ n.push.state.isTerminal = true := by
  cases hs : n.push.state.isTerminal with
  | true => simp only [fresh, hs, if_true, Sum.inl.injEq, and_true]; exact eq_comm
  | false => simp [fresh, hs]

theorem start_stored_eq_inr : (stored id : Errand MemoryStore _).start now s = .inr n ↔
    s.find? id = some n ∧ n.push.state = .queued := by
  simp only [stored, Store.get]
  cases hf : s.find? id with
  | none => simp
  | some m =>
    cases hs : m.push.state with
    | queued =>
      simp only [hs, Sum.inr.injEq, Option.some.injEq]
      exact ⟨fun h => ⟨h, h ▸ hs⟩, And.left⟩
    | pushed =>
      simp only [hs, reduceCtorEq, Option.some.injEq, false_iff, not_and]
      rintro rfl
      simp [hs]
    | undeliverable =>
      simp only [hs, reduceCtorEq, Option.some.injEq, false_iff, not_and]
      rintro rfl
      simp [hs]

theorem found_of_stored (h : (stored id : Errand MemoryStore _).start now s = .inl (.ok n)) :
    s.find? id = some n := by
  simp only [stored, Store.get] at h
  split at h
  · cases h
  · cases h
  · next m hm =>
    split at h <;> cases h
    exact Except.ok.inj hm

theorem start_queued_eq_inr : (queued id : Errand MemoryStore _).start now s = .inr n ↔
    s.find? id = some n ∧ n.isDue now = true := by
  simp only [queued, Store.get]
  cases hf : s.find? id with
  | none => simp
  | some m =>
    cases hd : m.isDue now with
    | true =>
      simp only [hd, if_true, Sum.inr.injEq, Option.some.injEq]
      exact ⟨fun h => ⟨h, h ▸ hd⟩, And.left⟩
    | false =>
      simp only [hd, Bool.false_eq_true, if_false, reduceCtorEq, Option.some.injEq,
        false_iff, not_and]
      rintro rfl
      simp [hd]

theorem finish_fresh_eq {S : Type} [Store S] (s : S) (h : n.push.state = .queued) :
    (fresh m : Errand S _).finish p now n o s =
      if o.isSuccess then Store.saved (n.settled o p now) s else (.error (failure n o), s) := by
  simp only [fresh, Notification.recordAttempt_eq h]

theorem finish_fresh (h : n.push.state = .queued) :
    (fresh m : Errand MemoryStore _).finish p now n o s =
    if o.isSuccess then (.ok { n.settled o p now with id := some s.nextId },
      s.append (n.settled o p now))
    else (.error (failure n o), s) := finish_fresh_eq s h

theorem finish_stored (hf : s.find? id = some n) (h : n.push.state = .queued) :
    (stored id : Errand MemoryStore _).finish p now n o s =
      if o.isSuccess then (.ok (n.settled o p now), s.replace id (n.settled o p now))
      else (.error (failure n o), s.erase id) := by
  have hid : (n.settled o p now).id = some id :=
    Notification.id_settled.trans (MemoryStore.id_of_find? hf)
  simp only [stored, Notification.recordAttempt_eq h, Store.update, Store.delete, hid, hf]

theorem finish_queued (hf : s.find? id = some n) (h : n.push.state = .queued) :
    (queued id : Errand MemoryStore _).finish p now n o s =
      (.ok (.processed o.result), s.replace id (n.settled o p now)) := by
  have hid : (n.settled o p now).id = some id :=
    Notification.id_settled.trans (MemoryStore.id_of_find? hf)
  simp only [queued, Notification.recordAttempt_eq h, Store.update, hid, hf]

inductive Ending (p : RetryPolicy) (now : Instant) (n : Notification) (o : Outcome)
    (s : MemoryStore) : Option Int → MemoryStore → Prop where
  | settled (id : Int) : Ending p now n o s (some id) (s.replace id (n.settled o p now))
  | dropped (id : Int) (failed : o.isSuccess = false) : Ending p now n o s (some id) (s.erase id)
  | added : Ending p now n o s none (s.append (n.settled o p now))
  | refused : Ending p now n o s none s

/-- Attempts only what is queued, the record of its key if it has one, and writes down its ending
there. -/
structure Careful (e : Errand MemoryStore α) : Prop where
  queued : ∀ now s n, e.start now s = .inr n → n.push.state = .queued
  found : ∀ now s n id, e.start now s = .inr n → e.key = some id → s.find? id = some n
  unnumbered : ∀ now s n, e.start now s = .inr n → e.key = none → n.id = none
  ending : ∀ p now n o s, n.push.state = .queued → (∀ id, e.key = some id → s.find? id = some n) →
    Ending p now n o s e.key (e.finish p now n o s).2

theorem careful_fresh (h : n.id = none) : (Errand.fresh n : Errand MemoryStore _).Careful where
  queued _ _ _ hs := by
    obtain ⟨rfl, hq⟩ := start_fresh_eq_inr.1 hs
    exact hq
  found _ _ _ _ _ hk := by cases hk
  unnumbered _ _ _ hs _ := by
    obtain ⟨rfl, _⟩ := start_fresh_eq_inr.1 hs
    exact h
  ending p now m o s hq _ := by
    rw [finish_fresh hq]
    split
    · exact .added
    · exact .refused

theorem careful_stored (id : Int) : (Errand.stored id : Errand MemoryStore _).Careful where
  queued _ _ _ hs := (start_stored_eq_inr.1 hs).2
  found _ _ _ _ hs hk := by
    cases hk
    exact (start_stored_eq_inr.1 hs).1
  unnumbered _ _ _ _ hk := by cases hk
  ending p now n o s hq hf := by
    rw [finish_stored (hf id rfl) hq]
    cases ho : o.isSuccess with
    | true => exact .settled id
    | false => exact .dropped id ho

theorem careful_queued (id : Int) : (Errand.queued id : Errand MemoryStore _).Careful where
  queued _ _ _ hs := Notification.queued_of_isDue (start_queued_eq_inr.1 hs).2
  found _ _ _ _ hs hk := by
    cases hk
    exact (start_queued_eq_inr.1 hs).1
  unnumbered _ _ _ _ hk := by cases hk
  ending p now n o s hq hf := by
    rw [finish_queued (hf id rfl) hq]
    exact .settled id

theorem careful_dispatch (n : Notification) : (dispatch n : Errand MemoryStore _).Careful := by
  unfold dispatch
  split
  · next h => exact careful_fresh h
  · exact careful_stored _

theorem Careful.map {e : Errand MemoryStore α} (h : e.Careful) (f : α → β) : (e.map f).Careful where
  queued now s n hs := by
    simp only [Errand.map] at hs
    split at hs <;> cases hs
    next hs => exact h.queued now s n hs
  found now s n id hs := by
    simp only [Errand.map] at hs
    split at hs <;> cases hs
    next hs => exact h.found now s n id hs
  unnumbered now s n hs := by
    simp only [Errand.map] at hs
    split at hs <;> cases hs
    next hs => exact h.unnumbered now s n hs
  ending := h.ending

namespace Ending

variable {key : Option Int} {t : MemoryStore} {r : Notification}

theorem change (h : Ending p now n o s key t) (hq : n.push.state = .queued)
    (hf : ∀ id, key = some id → s.find? id = some n) : s.Change p t := by
  cases h with
  | settled id => exact .settled (hf id rfl) hq o now
  | dropped id => exact .dropped (hf id rfl) hq
  | added => exact .added _
  | refused => exact .refl p s

theorem find?_of_ne (h : Ending p now n o s key t) (hk : key ≠ some id) (hr : s.find? id = some r) :
    t.find? id = some r := by
  cases h with
  | settled id =>
    rw [MemoryStore.find?_replace, if_neg fun he => hk (congrArg some he.symm), hr]
  | dropped id =>
    rw [MemoryStore.find?_erase, if_neg fun he => hk (congrArg some he.symm), hr]
  | added => exact MemoryStore.find?_append_of_some hr _
  | refused => exact hr

theorem pushed (h : Ending p now n o s (some id) t) (hf : s.find? id = some n)
    (ho : o.isSuccess = true) : ∃ r, t.find? id = some r ∧ r.push.state = .pushed := by
  cases h with
  | settled =>
    refine ⟨_, by rw [MemoryStore.find?_replace, if_pos rfl, hf]; rfl, ?_⟩
    simp only [Notification.push_settled_of_success ho]
  | dropped id failed => simp [ho] at failed

end Ending

end Errand

namespace Dispatcher

variable {S σ α : Type} [Store S]

@[simp] theorem store_attempt (d : Dispatcher σ) (n : Notification) (ignoreFrequency : Bool)
    (w : World S σ) : (d.attempt n ignoreFrequency w).2.store = w.store := by
  unfold attempt
  split <;> rfl

/-- An errand either has its answer at once, and changes nothing, or makes one attempt. -/
theorem perform_cases (d : Dispatcher σ) (e : Errand S α) (now : Instant) (w : World S σ) :
    (∃ a, e.start now w.store = .inl a ∧ d.perform e now w = (a, w)) ∨
    ∃ n, e.start now w.store = .inr n ∧
      let o := (d.attempt n e.ignoresFrequency w).1
      (d.perform e now w).1 = (e.finish d.config.retry now n o w.store).1 ∧
      (d.perform e now w).2.store = (e.finish d.config.retry now n o w.store).2 := by
  cases hs : e.start now w.store with
  | inl a => exact .inl ⟨a, rfl, by simp only [perform, hs]⟩
  | inr n => exact .inr ⟨n, rfl, by simp only [perform, hs, store_attempt, and_self]⟩

theorem ending_perform (d : Dispatcher σ) {e : Errand MemoryStore α} (h : e.Careful) {now : Instant}
    {w : World MemoryStore σ} {n : Notification} (hs : e.start now w.store = .inr n) :
    Errand.Ending d.config.retry now n (d.attempt n e.ignoresFrequency w).1 w.store e.key
      (d.perform e now w).2.store := by
  rcases d.perform_cases e now w with ⟨a, hs', _⟩ | ⟨m, hs', _, hp⟩
  · rw [hs] at hs'
    cases hs'
  · rw [hs] at hs'
    cases hs'
    rw [hp]
    exact h.ending _ now n _ w.store (h.queued _ _ _ hs) fun id => h.found now w.store n id hs

theorem change_perform (d : Dispatcher σ) {e : Errand MemoryStore α} (h : e.Careful) (now : Instant)
    (w : World MemoryStore σ) : w.store.Change d.config.retry (d.perform e now w).2.store := by
  rcases d.perform_cases e now w with ⟨a, _, hp⟩ | ⟨n, hs, _⟩
  · rw [hp]
    exact .refl _ _
  · exact (d.ending_perform h hs).change (h.queued _ _ _ hs) fun id => h.found now w.store n id hs

theorem find?_perform_of_ne (d : Dispatcher σ) {e : Errand MemoryStore α}
    (h : e.Careful) (now : Instant)
    {w : World MemoryStore σ} {id : Int} {r : Notification} (hk : e.key ≠ some id)
    (hf : w.store.find? id = some r) : (d.perform e now w).2.store.find? id = some r := by
  rcases d.perform_cases e now w with ⟨a, _, hp⟩ | ⟨n, hs, _⟩
  · rw [hp]
    exact hf
  · exact (d.ending_perform h hs).find?_of_ne hk hf

theorem dispatchNow_of_none {n : Notification} (h : n.id = none) (d : Dispatcher σ) (now : Instant)
    (w : World S σ) : d.dispatchNow n now w = d.perform (.fresh n) now w := by
  simp only [dispatchNow, Errand.dispatch, h]

theorem dispatchNow_of_some {n : Notification} {id : Int} (h : n.id = some id) (d : Dispatcher σ)
    (now : Instant) (w : World S σ) : d.dispatchNow n now w = d.perform (.stored id) now w := by
  simp only [dispatchNow, Errand.dispatch, h]

end Dispatcher

end Herald
