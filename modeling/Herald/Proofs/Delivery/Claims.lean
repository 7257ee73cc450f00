import Herald.Delivery
import Herald.Proofs.KeyLock.Exclusion
/-!
Deliveries and their keys, over any store. How far a delivery has come shows in its claim, and no
step of one touches the claim of another.
-/

set_option autoImplicit false

namespace Herald

namespace Delivery

open Claim (Phase)

variable {S σ α τ : Type}

def Stake (key : Option Int) (phase : Phase) (c : Option (Claim τ Int)) : Prop :=
  c.map (fun c => (c.key, c.phase)) = key.map (·, phase)

def Staked (c : Option (Claim τ Int)) : Delivery S σ α → Prop
  | .opening _ | .claiming _ | .done _ => c = none
  | .awaiting e => e.key.isSome ∧ Stake e.key .waiting c
  | .starting e | .attempting e _ | .finishing e _ _ => Stake e.key .holding c
  | .releasing _ => ∃ key, Stake (some key) .holding c
  | .evicting _ => ∃ key, Stake (some key) .leaving c

variable {c : Option (Claim τ Int)} {e : Errand S α} {id : Int}

theorem stake_none {phase : Phase} : Stake none phase c ↔ c = none := by
  simp [Stake]

theorem stake_some {phase : Phase} :
    Stake (some id) phase c ↔ ∃ d, c = some d ∧ d.key = id ∧ d.phase = phase := by
  simp [Stake]

theorem staked_ofErrand (e : Errand S α) :
    (ofErrand e : Delivery S σ α).Staked (none : Option (Claim τ Int)) := by
  unfold ofErrand
  split
  · rfl
  · next hk =>
    show Stake e.key .holding none
    rw [hk]
    rfl

theorem staked_leave (h : Stake e.key .holding c) (a : α) :
    (leave e a : Delivery S σ α).Staked c := by
  unfold leave
  split
  · next key hk => exact ⟨key, hk ▸ h⟩
  · next hk => exact stake_none.1 (hk ▸ h)

section Steps

variable [Store S] [DecidableEq τ]

/-- What a step makes of a delivery, of the keys and of the world. -/
inductive Moved (disp : Dispatcher σ) (task : τ) (now : Instant) (l : KeyLock τ Int)
    (w : World S σ) : Delivery S σ α → Delivery S σ α × KeyLock τ Int × World S σ → Prop where
  | answered {f : Instant → S → (α ⊕ Errand S α) × S} {a : α} {s : S}
    (found : f now w.store = (.inl a, s)) :
    Moved disp task now l w (.opening f) (.done a, l, { w with store := s })
  | opened {f : Instant → S → (α ⊕ Errand S α) × S} {e : Errand S α} {s : S}
      (found : f now w.store = (.inr e, s)) :
    Moved disp task now l w (.opening f) (ofErrand e, l, { w with store := s })
  | fetched {e : Errand S α} {key : Int} (keyed : e.key = some key) :
    Moved disp task now l w (.claiming e) (.awaiting e, l.fetch task key, w)
  | unkeyed {e : Errand S α} (unkeyed : e.key = none) :
    Moved disp task now l w (.claiming e) (.starting e, l, w)
  | entered {e : Errand S α} {m : KeyLock τ Int} (free : l.enter? task = some m) :
    Moved disp task now l w (.awaiting e) (.starting e, m, w)
  | shut {e : Errand S α} (taken : l.enter? task = none) :
    Moved disp task now l w (.awaiting e) (.awaiting e, l, w)
  | spared {e : Errand S α} {a : α} (spared : e.start now w.store = .inl a) :
    Moved disp task now l w (.starting e) (leave e a, l, w)
  | unprepared {e : Errand S α} {n : Notification} {o : Outcome}
    (started : e.start now w.store = .inr n) (prepared : Dispatcher.prepare n w.store = .error o) :
    Moved disp task now l w (.starting e) (.finishing e n o, l, w)
  | begun {e : Errand S α} {n : Notification} {p : Preferences}
    (started : e.start now w.store = .inr n) (prepared : Dispatcher.prepare n w.store = .ok p) :
    Moved disp task now l w (.starting e)
      (.attempting e (.begin (disp.fanOut e.ignoresFrequency) n p), l, w)
  | visited {e : Errand S α} {a b : Attempt σ} {s : σ} (stepped : a.step w.outside = (.inl b, s)) :
    Moved disp task now l w (.attempting e a) (.attempting e b, l, { w with outside := s })
  | closed {e : Errand S α} {a : Attempt σ} {o : Outcome} {s : σ}
    (stepped : a.step w.outside = (.inr o, s)) :
    Moved disp task now l w (.attempting e a) (.finishing e a.notification o, l,
      { w with outside := s })
  | finished {e : Errand S α} {n : Notification} {o : Outcome} :
    Moved disp task now l w (.finishing e n o)
      (leave e (e.finish disp.config.retry now n o w.store).1, l,
      { w with store := (e.finish disp.config.retry now n o w.store).2 })
  | released {a : α} : Moved disp task now l w (.releasing a) (.evicting a, l.release task, w)
  | evicted {a : α} : Moved disp task now l w (.evicting a) (.done a, l.evict task, w)
  | idle {a : α} : Moved disp task now l w (.done a) (.done a, l, w)

variable {disp : Dispatcher σ} {task : τ} {now : Instant} {l : KeyLock τ Int} {w : World S σ}

theorem moved_step (d : Delivery S σ α) (disp : Dispatcher σ) (task : τ) (now : Instant)
    (l : KeyLock τ Int) (w : World S σ) : Moved disp task now l w d (d.step disp task now l w) := by
  cases d with
  | opening f =>
    simp only [step]
    split
    · next h => exact .answered h
    · next h => exact .opened h
  | claiming e =>
    simp only [step]
    split
    · next h => exact .fetched h
    · next h => exact .unkeyed h
  | awaiting e =>
    simp only [step]
    split
    · next h => exact .entered h
    · next h => exact .shut h
  | starting e =>
    simp only [step]
    split
    · next h => exact .spared h
    · next h =>
      split
      · next hp => exact .unprepared h hp
      · next hp => exact .begun h hp
  | attempting e a =>
    simp only [step]
    split
    · next h => exact .visited h
    · next h => exact .closed h
  | finishing e n o => exact .finished
  | releasing a => exact .released
  | evicting a => exact .evicted
  | done a => exact .idle

variable {d : Delivery S σ α}

theorem claim?_step_of_ne {other : τ} (h : other ≠ task) :
    (d.step disp task now l w).2.1.claim? other = l.claim? other := by
  have hm := d.moved_step disp task now l w
  generalize d.step disp task now l w = r at hm ⊢
  cases hm with
  | fetched => exact l.claim?_fetch_of_ne h _
  | entered free =>
    obtain ⟨_, _, _, _, rfl⟩ := KeyLock.enter?_eq_some free
    exact l.claim?_move_of_ne h _ _
  | released => exact l.claim?_move_of_ne h _ _
  | evicted => exact l.claim?_evict_of_ne h
  | _ => rfl

theorem sound_step (hl : l.Sound) (h : d.Staked (l.claim? task)) :
    (d.step disp task now l w).2.1.Sound := by
  have hm := d.moved_step disp task now l w
  generalize d.step disp task now l w = r at hm ⊢
  cases hm with
  | fetched => exact hl.fetch h _
  | entered free =>
    have := hl.after (.enter task)
    simpa [KeyLock.after, free] using this
  | released => exact hl.after (.release task)
  | evicted => exact hl.after (.evict task)
  | _ => exact hl

theorem staked_step (hl : l.Sound) (h : d.Staked (l.claim? task)) :
    (d.step disp task now l w).1.Staked ((d.step disp task now l w).2.1.claim? task) := by
  have hm := d.moved_step disp task now l w
  generalize d.step disp task now l w = r at hm ⊢
  cases hm with
  | @opened f e s found =>
    have hc : l.claim? task = none := h
    rw [hc]
    exact staked_ofErrand e
  | @fetched e key keyed =>
    have hc : l.claim? task = none := h
    obtain ⟨handle, hh⟩ := KeyLock.claim?_fetch_self hc key
    exact ⟨by simp [keyed], by rw [keyed, hh]; rfl⟩
  | @unkeyed e unkeyed =>
    have hc : l.claim? task = none := h
    show Stake e.key .holding (l.claim? task)
    rw [unkeyed, hc]
    rfl
  | @entered e m free =>
    obtain ⟨hk, hc⟩ := h
    obtain ⟨c, hcl, hp, _, rfl⟩ := KeyLock.enter?_eq_some free
    obtain ⟨key, hk⟩ := Option.isSome_iff_exists.1 hk
    rw [hk, hcl, stake_some] at hc
    obtain ⟨d, hd, hkey, _⟩ := hc
    cases hd
    show Stake e.key .holding _
    rw [KeyLock.claim?_move_self hcl hp, hk]
    exact stake_some.2 ⟨_, rfl, hkey, rfl⟩
  | spared => exact staked_leave h _
  | finished => exact staked_leave h _
  | released =>
    obtain ⟨key, hc⟩ := h
    obtain ⟨c, hcl, hk, hp⟩ := stake_some.1 hc
    refine ⟨key, ?_⟩
    show Stake (some key) .leaving ((l.move task .holding .leaving).claim? task)
    rw [KeyLock.claim?_move_self hcl hp, stake_some]
    exact ⟨_, rfl, hk, rfl⟩
  | evicted =>
    obtain ⟨key, hc⟩ := h
    obtain ⟨c, hcl, _, hp⟩ := stake_some.1 hc
    exact KeyLock.claim?_evict_self hl hcl hp
  | answered | shut | unprepared | begun | visited | closed | idle => exact h

end Steps

end Delivery

theorem KeyLock.Sound.eq_of_stake {τ : Type} [DecidableEq τ] {l : KeyLock τ Int}
    (h : l.Sound) {i j : τ} {id : Int} (hi : Delivery.Stake (some id) .holding (l.claim? i))
    (hj : Delivery.Stake (some id) .holding (l.claim? j)) : i = j := by
  obtain ⟨c, hc, hck, hcp⟩ := Delivery.stake_some.1 hi
  obtain ⟨d, hd, hdk, hdp⟩ := Delivery.stake_some.1 hj
  obtain ⟨hcm, rfl⟩ := KeyLock.mem_of_claim? hc
  obtain ⟨hdm, rfl⟩ := KeyLock.mem_of_claim? hd
  rw [h.eq_of_holding hcm hdm hcp hdp (hck.trans hdk.symm)]

namespace Traffic

variable {S σ α : Type} [Store S] {t : Traffic S σ α} {i : Nat}

theorem step_eq {d : Delivery S σ α} (hi : t.deliveries[i]? = some d) :
    let r := d.step t.dispatcher i t.now t.locks t.world
    t.step i = { t with locks := r.2.1, world := r.2.2, deliveries := t.deliveries.set i r.1 } ∧
      (t.step i).deliveries[i]? = some r.1 ∧
      ∀ j, j ≠ i → (t.step i).deliveries[j]? = t.deliveries[j]? := by
  intro r
  have hs : t.step i =
      { t with locks := r.2.1, world := r.2.2, deliveries := t.deliveries.set i r.1 } := by
    simp only [step, hi]
    rfl
  have hl : i < t.deliveries.length := (List.getElem?_eq_some_iff.1 hi).1
  refine ⟨hs, ?_, fun j hj => ?_⟩
  · rw [hs]
    exact List.getElem?_set_self hl
  · rw [hs]
    exact List.getElem?_set_ne (Ne.symm hj)

theorem step_eq_self (h : t.deliveries[i]? = none) : t.step i = t := by
  simp only [step, h]

@[simp] theorem dispatcher_step (t : Traffic S σ α) (i : Nat) :
    (t.step i).dispatcher = t.dispatcher := by
  cases hi : t.deliveries[i]? with
  | none => rw [step_eq_self hi]
  | some d => rw [(step_eq hi).1]

@[simp] theorem now_step (t : Traffic S σ α) (i : Nat) : (t.step i).now = t.now := by
  cases hi : t.deliveries[i]? with
  | none => rw [step_eq_self hi]
  | some d => rw [(step_eq hi).1]

/-- After a step of place `i` each delivery is the one that was there, but for that of `i`. -/
theorem delivery_step {j : Nat} {d : Delivery S σ α} (hd : (t.step i).deliveries[j]? = some d) :
    j ≠ i ∧ t.deliveries[j]? = some d ∨
    j = i ∧ ∃ c, t.deliveries[i]? = some c ∧
    d = (c.step t.dispatcher i t.now t.locks t.world).1 := by
  cases hi : t.deliveries[i]? with
  | none =>
    rw [step_eq_self hi] at hd
    refine .inl ⟨?_, hd⟩
    rintro rfl
    rw [hi] at hd
    cases hd
  | some c =>
    obtain ⟨_, hself, hothers⟩ := step_eq hi
    by_cases hij : j = i
    · subst hij
      rw [hself] at hd
      cases hd
      exact .inr ⟨rfl, c, rfl, rfl⟩
    · exact .inl ⟨hij, (hothers j hij).symm.trans hd⟩

theorem claim?_step_of_ne {j : Nat} (h : j ≠ i) : (t.step i).locks.claim? j = t.locks.claim? j := by
  cases hi : t.deliveries[i]? with
  | none => rw [step_eq_self hi]
  | some d =>
    rw [(step_eq hi).1]
    exact Delivery.claim?_step_of_ne h

/-- Every delivery has the claim of where it is. -/
structure Held (t : Traffic S σ α) : Prop where
  locks : t.locks.Sound
  staked : ∀ i (d : Delivery S σ α), t.deliveries[i]? = some d → d.Staked (t.locks.claim? i)

theorem Held.step (h : t.Held) (i : Nat) : (t.step i).Held where
  locks := by
    cases hi : t.deliveries[i]? with
    | none =>
      rw [step_eq_self hi]
      exact h.locks
    | some d =>
      rw [(step_eq hi).1]
      exact Delivery.sound_step h.locks (h.staked i d hi)
  staked j d hd := by
    rcases delivery_step hd with ⟨hij, hd⟩ | ⟨rfl, c, hc, rfl⟩
    · rw [claim?_step_of_ne hij]
      exact h.staked j d hd
    · rw [(step_eq hc).1]
      exact Delivery.staked_step h.locks (h.staked j c hc)

end Traffic

theorem sublist_concat {α : Type} {xs es : List α} {z w : α} (h : (xs ++ [z]).Sublist (es ++ [w])) :
    (xs ++ [z]).Sublist es ∨ z = w ∧ xs.Sublist es := by
  obtain ⟨l₁, l₂, hl, h₁, h₂⟩ := List.sublist_append_iff.1 h
  rcases List.sublist_singleton.1 h₂ with rfl | rfl
  · rw [List.append_nil] at hl
    exact .inl (hl ▸ h₁)
  · obtain ⟨rfl, hz⟩ := List.append_inj' hl rfl
    exact .inr ⟨(List.cons.inj hz).1, h₁⟩

end Herald
