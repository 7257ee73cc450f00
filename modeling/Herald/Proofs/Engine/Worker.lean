import Herald.Worker
import Herald.Proofs.Dispatcher.Draining
import Herald.Proofs.Delivery.SingleFlight
/-!
Workers one by one: a worker goes on to another attempt after each that it makes, and comes to rest
only when it has found nothing due.
-/

set_option autoImplicit false

namespace Herald

variable {σ τ : Type}

def Errand.Eager (e : Errand MemoryStore Bool) : Prop :=
  (∀ now s, e.start now s ≠ .inl false) ∧
    ∀ p now n o s, Delivery.Current e.key s n → (e.finish p now n o s).1 = true

theorem Errand.eager_queued (id : Int) :
    (((queued id).map (·.map some)).map Worker.goesOn : Errand MemoryStore Bool).Eager := by
  constructor
  · intro now s
    simp only [map, queued, Store.get]
    cases s.find? id with
    | none => simp [Except.map, Worker.goesOn]
    | some n => cases hd : n.isDue now <;> simp [hd, Except.map, Worker.goesOn]
  · intro p now n o s h
    simp only [map, finish_queued (h.found id rfl) h.1]
    rfl

namespace Delivery

variable {d : Delivery MemoryStore σ Bool}

def Eager : Delivery MemoryStore σ Bool → Prop
  | .opening f => ∀ now s, ((f now s).1 = .inl false → s.due now = []) ∧
    ∀ e, (f now s).1 = .inr e → e.Eager
  | .claiming e | .awaiting e | .starting e | .attempting e _ | .finishing e _ _ => e.Eager
  | .releasing more | .evicting more => more = true
  | .done _ => True

theorem eager_processNext :
    (processNext.map Worker.goesOn : Delivery MemoryStore σ Bool).Eager := by
  intro now s
  simp only [Store.getNext, MemoryStore.next?_eq]
  cases he : MemoryStore.earliest (s.due now) with
  | none => exact ⟨fun _ => earliestOf_eq_none.1 he, by simp⟩
  | some r =>
    have hid := MemoryStore.id_of_find? (MemoryStore.find?_eq_some.2
      (List.mem_filter.1 (mem_of_earliestOf he)).1)
    simp only [Option.map_some, Errand.process, hid]
    refine ⟨by simp, fun e h => ?_⟩
    cases h
    exact Errand.eager_queued r.1

theorem eager_ofErrand {e : Errand MemoryStore Bool} (h : e.Eager) :
    (ofErrand e : Delivery MemoryStore σ Bool).Eager := by
  unfold ofErrand
  split <;> exact h

theorem eager_leave (e : Errand MemoryStore Bool) :
    (leave e true : Delivery MemoryStore σ Bool).Eager := by
  unfold leave
  split <;> trivial

def Open (d : Delivery MemoryStore σ Bool) : Prop := d.answer? ≠ some false

theorem open_ofErrand (e : Errand MemoryStore Bool) :
    (ofErrand e : Delivery MemoryStore σ Bool).Open := by
  unfold ofErrand
  split <;> simp [Open, answer?]

theorem open_leave (e : Errand MemoryStore Bool) :
    (leave e true : Delivery MemoryStore σ Bool).Open := by
  unfold leave
  split <;> simp [Open, answer?]

variable [DecidableEq τ] {disp : Dispatcher σ} {task : τ} {now : Instant} {l : KeyLock τ Int}
  {w : World MemoryStore σ}

theorem eager_step (h : d.Eager) (hm : d.Minds w.store) : (d.step disp task now l w).1.Eager ∧
    (d.Open → (d.step disp task now l w).1.Open ∨
      (d.step disp task now l w).2.2.store.due now = []) := by
  have hd := d.moved_step disp task now l w
  generalize d.step disp task now l w = r at hd ⊢
  cases hd with
  | @answered f a s found =>
    have hf := (h now w.store).1
    have hs := (hm now w.store).1
    rw [found] at hf hs
    obtain rfl : s = w.store := hs
    refine ⟨trivial, fun _ => ?_⟩
    cases a with
    | true => exact .inl (by simp [Open, answer?])
    | false => exact .inr (hf rfl)
  | @opened f e s found =>
    have hf := (h now w.store).2
    rw [found] at hf
    exact ⟨eager_ofErrand (hf e rfl), fun _ => .inl (open_ofErrand e)⟩
  | @spared e a spared =>
    cases a with
    | true => exact ⟨eager_leave e, fun _ => .inl (open_leave e)⟩
    | false => exact absurd spared (h.1 _ _)
  | @finished e n o =>
    rw [h.2 disp.config.retry now n o w.store hm.2]
    exact ⟨eager_leave e, fun _ => .inl (open_leave e)⟩
  | @evicted a => exact ⟨trivial, fun _ => .inl (by simp [Open, answer?, show a = true from h])⟩
  | idle => exact ⟨trivial, .inl⟩
  | fetched | unkeyed | entered | shut | unprepared | begun | visited | closed | released =>
    exact ⟨h, fun _ => .inl (by simp [Open, answer?])⟩

end Delivery

namespace Worker

variable {w : Worker MemoryStore σ}

/-- What a worker relies on between two steps, with `c` for its claim. -/
def Fits (s : MemoryStore) (c : Option (Claim τ Int)) : Worker MemoryStore σ → Prop
  | .inside d => d.Staked c ∧ d.Minds s ∧ d.Eager
  | .turning | .resting | .waiting | .stopped => c = none

def Alert (b : Bell) (place : Nat) : Worker MemoryStore σ → Prop
  | .turning => True
  | .inside d => d.Open
  | .waiting => b.isInLine place = false
  | .resting | .stopped => False

theorem fits_enter (s : MemoryStore) :
    (enter : Worker MemoryStore σ).Fits s (none : Option (Claim τ Int)) := by
  obtain ⟨hs, hm, _⟩ := Delivery.fits_iff.1
    (Delivery.fits_ofCall (.processNext goesOn) s : (_ : Delivery MemoryStore σ Bool).Fits s none)
  exact ⟨hs, hm, Delivery.eager_processNext⟩

theorem open_enter (b : Bell) (place : Nat) : (enter : Worker MemoryStore σ).Alert b place := by
  simp [enter, Alert, Delivery.Open, Delivery.processNext, Delivery.map, Delivery.answer?]

theorem Fits.frame {s t : MemoryStore} {c : Option (Claim τ Int)} (h : w.Fits s c)
    (hs : ∀ id, Delivery.Stake (some id) .holding c → ∀ r, s.find? id = some r →
      t.find? id = some r) :
    w.Fits t c := by
  cases w with
  | inside d => exact ⟨h.1, h.2.1.frame h.1 hs, h.2.2⟩
  | _ => exact h

variable [DecidableEq τ] (sh : Shift) (disp : Dispatcher σ) (place : Nat) (task : τ)
  (now : Instant) (b : Bell) (l : KeyLock τ Int) (world : World MemoryStore σ)

/-- Only in the middle of an attempt does a worker touch keys and records. -/
theorem step_cases (w : Worker MemoryStore σ) :
    (∃ d, w = .inside d ∧ w.step disp place task now sh b l world =
      (.inside (d.step disp task now l world).1, b, (d.step disp task now l world).2.1,
        (d.step disp task now l world).2.2)) ∨
    ((w.step disp place task now sh b l world).2.2 = (l, world) ∧
      (∀ c : Option (Claim τ Int), w.Fits world.store c →
        (w.step disp place task now sh b l world).1.Fits world.store c) ∧
      (sh.cancelled = false → w.Alert b place →
        (w.step disp place task now sh b l world).1.Alert b place)) := by
  cases w with
  | turning =>
    refine .inr ⟨rfl, fun c h => ?_, fun hc _ => ?_⟩
    · obtain rfl : c = none := h
      simp only [step]
      split
      · rfl
      · exact fits_enter _
    · simp only [step, hc]
      exact open_enter b place
  | inside d =>
    cases ha : d.answer? with
    | none => exact .inl ⟨d, rfl, by simp only [step, ha]⟩
    | some more =>
      obtain rfl : d = .done more := by
        cases d <;> simp_all [Delivery.answer?]
      refine .inr ⟨rfl, fun c h => ?_, fun _ h => ?_⟩
      · cases more <;> exact h.1
      · cases more with
        | true => trivial
        | false => exact absurd rfl h
  | resting =>
    refine .inr ?_
    simp only [step]
    split
    · exact ⟨rfl, fun _ => id, fun _ => nofun⟩
    · refine ⟨rfl, fun c h => ?_, fun _ => nofun⟩
      simp only
      split <;> exact h
  | waiting =>
    refine .inr ?_
    simp only [step]
    cases hl : b.isInLine place with
    | false => exact ⟨rfl, fun _ => id, fun _ _ => trivial⟩
    | true =>
      cases hc : sh.cancelled with
      | false => exact ⟨rfl, fun _ => id, fun _ => id⟩
      | true => exact ⟨rfl, fun _ => id, nofun⟩
  | stopped => exact .inr ⟨rfl, fun _ => id, fun _ => id⟩

theorem bell_step (hc : sh.cancelled = false) : (w.step disp place task now sh b l world).2.1 =
    match w with
    | .resting => (b.await place).2
    | _ => b := by
  cases w with
  | inside d =>
    simp only [step]
    split <;> rfl
  | resting => simp [step, hc]
  | waiting =>
    simp only [step, hc]
    split <;> rfl
  | turning | stopped => rfl

theorem claim?_step_of_ne {other : τ} (ho : other ≠ task) :
    (w.step disp place task now sh b l world).2.2.1.claim? other = l.claim? other := by
  rcases w.step_cases sh disp place task now b l world with ⟨d, rfl, hs⟩ | ⟨hs, _⟩
  · rw [hs]
    exact Delivery.claim?_step_of_ne ho
  · rw [hs]

variable {l world} (hl : l.Sound) (h : w.Fits world.store (l.claim? task))

include hl h

theorem sound_step : (w.step disp place task now sh b l world).2.2.1.Sound := by
  rcases w.step_cases sh disp place task now b l world with ⟨d, rfl, hs⟩ | ⟨hs, _⟩
  · rw [hs]
    exact Delivery.sound_step hl h.1
  · rw [hs]
    exact hl

theorem find?_step {other : τ} (ho : other ≠ task) {id : Int}
    (hk : Delivery.Stake (some id) .holding (l.claim? other)) {r : Notification}
    (hr : world.store.find? id = some r) :
    (w.step disp place task now sh b l world).2.2.2.store.find? id = some r := by
  rcases w.step_cases sh disp place task now b l world with ⟨d, rfl, hs⟩ | ⟨hs, _⟩
  · rw [hs]
    rcases Delivery.store_step disp task now l h.2.1 with hs | ⟨e, n, o, rfl, hs⟩
    · rw [hs]
      exact hr
    · have hself : Delivery.Stake e.key .holding (l.claim? task) := h.1
      exact hs.find?_of_ne (fun he => ho (hl.eq_of_stake hk (he ▸ hself))) hr
  · rw [hs]
    exact hr

theorem fits_step :
    (w.step disp place task now sh b l world).1.Fits
      (w.step disp place task now sh b l world).2.2.2.store
      ((w.step disp place task now sh b l world).2.2.1.claim? task) := by
  rcases w.step_cases sh disp place task now b l world with ⟨d, rfl, hs⟩ | ⟨hs, hf, _⟩
  · rw [hs]
    exact ⟨Delivery.staked_step hl h.1, Delivery.minds_step h.2.1,
      (Delivery.eager_step h.2.2 h.2.1).1⟩
  · rw [hs]
    exact hf _ h

omit hl in
/-- A worker comes to rest only when nothing is due. -/
theorem alert_step (hc : sh.cancelled = false) (ha : w.Alert b place) :
    (w.step disp place task now sh b l world).1.Alert b place ∨
      (w.step disp place task now sh b l world).2.2.2.store.due now = [] := by
  rcases w.step_cases sh disp place task now b l world with ⟨d, rfl, hs⟩ | ⟨_, _, hs⟩
  · rw [hs]
    exact (Delivery.eager_step h.2.2 h.2.1).2 ha
  · exact .inl (hs hc ha)

omit hl h in
theorem store_of_quiet (ha : ¬ w.Alert b place) :
    (w.step disp place task now sh b l world).2.2.2 = world := by
  rcases w.step_cases sh disp place task now b l world with ⟨d, rfl, hs⟩ | ⟨hs, _⟩
  · have hd : d.answer? = some false := Classical.not_not.1 ha
    cases d <;> simp_all [Delivery.answer?, Delivery.step]
  · rw [hs]

end Worker

end Herald
