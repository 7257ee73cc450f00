import Herald.Proofs.Engine.Worker
import Herald.Proofs.Notification.Lifecycle
import Herald.Proofs.Delivery.Waiting
import Herald.Proofs.Engine.Pool
/-!
The end of an engine's pool. Once the call that waits for the workers has returned, none of them
works any more, and the outcome of every attempt that they had begun is written down. A call that
comes to wait after it returns at once.
-/

set_option autoImplicit false

namespace Herald

variable {σ α : Type}

def Hall.Spares (f : Hall MemoryStore σ → α × Hall MemoryStore σ) : Prop :=
  ∀ h, (f h).2.shift = h.shift ∧
    ∀ (id : Int) (r : Notification), h.world.store.find? id = some r →
      (f h).2.world.store.find? id = some r

namespace Call

variable {s t : MemoryStore} {c : Option (Claim Task Int)} {call : Call MemoryStore σ α}

/-- Has not begun yet. What it does in one step spares the shift and the records. -/
def Begins : Call MemoryStore σ α → Prop
  | .once f | .stopping .cancelling f => Hall.Spares f
  | .keeping .. | .starting .asking _ => True
  | .delivery d => ∃ c : Delivery.Call α, d = .ofCall c
  | _ => False

/-- What a call relies on between two steps, with `c` for its claim. -/
def Fits (s : MemoryStore) (c : Option (Claim Task Int)) : Call MemoryStore σ α → Prop
  | .once f | .stopping _ f => Hall.Spares f ∧ c = none
  | .delivery d => d.Staked c ∧ d.Minds s
  | .keeping .. | .telling .. | .starting .. | .over _ => c = none

theorem fits_of_begins (h : call.Begins) (s : MemoryStore) : call.Fits s none := by
  cases call with
  | once f => exact ⟨h, rfl⟩
  | delivery d =>
    obtain ⟨c, rfl⟩ := h
    obtain ⟨hs, hm, _⟩ := Delivery.fits_iff.1 (Delivery.fits_ofCall (τ := Task) c s)
    exact ⟨hs, hm⟩
  | stopping p f =>
    cases p with
    | cancelling => exact ⟨h, rfl⟩
    | _ => exact h.elim
  | _ => rfl

theorem discreet_of_fits (h : call.Fits s c) : call.Discreet := by
  cases call with
  | once f => exact fun hall => (h.1 hall).1
  | stopping p f => exact fun hall => (h.1 hall).1
  | _ => trivial

theorem Fits.frame (h : call.Fits s c)
    (hs : ∀ id, Delivery.Stake (some id) .holding c → ∀ r, s.find? id = some r →
      t.find? id = some r) :
    call.Fits t c := by
  cases call with
  | delivery d => exact ⟨h.1, h.2.frame h.1 hs⟩
  | _ => exact h

end Call

namespace Worker

variable {w : Worker MemoryStore σ}

def Prompt : Worker MemoryStore σ → Prop
  | .inside d => d.Prompt
  | _ => True

/-- The notification of which an attempt has begun, and is not written down yet. -/
def attempted? : Worker MemoryStore σ → Option Notification
  | .inside (.attempting _ a) => some a.notification
  | .inside (.finishing _ n _) => some n
  | _ => none

theorem prompt_step (h : w.Prompt) (sh : Shift) (disp : Dispatcher σ) (place : Nat)
    (task : Task) (now : Instant) (b : Bell) (l : KeyLock Task Int) (world : World MemoryStore σ) :
    (w.step disp place task now sh b l world).1.Prompt := by
  cases w with
  | turning =>
    simp only [step]
    split
    · trivial
    · exact (Delivery.prompt_ofCall rfl :
        (.ofCall (.processNext goesOn) : Delivery MemoryStore σ Bool).Prompt)
  | inside d =>
    simp only [step]
    split
    · split <;> trivial
    · exact Delivery.prompt_step MemoryStore.punctual h
  | resting =>
    simp only [step]
    split
    · trivial
    · simp only
      split <;> trivial
  | waiting =>
    simp only [step]
    split
    · trivial
    · split <;> trivial
  | stopped => trivial

end Worker

namespace Engine

variable {e e' : Engine MemoryStore σ α} {i : Nat} {n : Notification}

structure Held (e : Engine MemoryStore σ α) : Prop where
  locks : e.locks.Sound
  workers : ∀ (i : Nat) (w : Worker MemoryStore σ), e.workers[i]? = some w →
    w.Fits e.hall.world.store (e.locks.claim? (Task.worker i)) ∧ w.Prompt
  calls : ∀ (i : Nat) (c : Call MemoryStore σ α), e.calls[i]? = some c →
    c.Fits e.hall.world.store (e.locks.claim? (Task.call i))
  absent : ∀ i, e.workers[i]? = none → e.locks.claim? (Task.worker i) = none

def Minds (e : Engine MemoryStore σ α) (t : Task) (s : MemoryStore) : Prop :=
  ∀ u, u ≠ t → ∀ id, Delivery.Stake (some id) .holding (e.locks.claim? u) →
    ∀ r, e.hall.world.store.find? id = some r → s.find? id = some r

/-- A task may do what it has the keys for, and new workers may come. -/
theorem Held.acted (h : e.Held) {t : Task} (locks : e'.locks.Sound)
    (claims : ∀ u, u ≠ t → e'.locks.claim? u = e.locks.claim? u)
    (records : e.Minds t e'.hall.world.store)
    (workers : ∀ (j : Nat) (w : Worker MemoryStore σ), t ≠ .worker j → e'.workers[j]? = some w →
      e.workers[j]? = some w ∨ e.workers[j]? = none ∧ w = .turning)
    (absent : ∀ j, e'.workers[j]? = none → e.workers[j]? = none ∧ t ≠ .worker j)
    (calls : ∀ j, t ≠ .call j → e'.calls[j]? = e.calls[j]?)
    (worker : ∀ (j : Nat) (w : Worker MemoryStore σ), t = .worker j → e'.workers[j]? = some w →
      w.Fits e'.hall.world.store (e'.locks.claim? t) ∧ w.Prompt)
    (call : ∀ (j : Nat) (c : Call MemoryStore σ α), t = .call j → e'.calls[j]? = some c →
      c.Fits e'.hall.world.store (e'.locks.claim? t)) : e'.Held := by
  refine ⟨locks, fun j w hw => ?_, fun j c hc => ?_, fun j hj => ?_⟩
  -- the others keep their claims, and with them the records that they rely on
  · by_cases ht : t = .worker j
    · exact ht ▸ worker j w ht hw
    · have hne := Ne.symm ht
      rw [claims _ hne]
      rcases workers j w ht hw with hw | ⟨hn, rfl⟩
      · exact ⟨(h.workers j w hw).1.frame fun id => records _ hne id, (h.workers j w hw).2⟩
      · exact ⟨h.absent j hn, trivial⟩
  · by_cases ht : t = .call j
    · exact ht ▸ call j c ht hc
    · have hne := Ne.symm ht
      rw [calls j ht] at hc
      rw [claims _ hne]
      exact (h.calls j c hc).frame fun id => records _ hne id
  · obtain ⟨hn, ht⟩ := absent j hj
    rw [claims _ (Ne.symm ht)]
    exact h.absent j hn

theorem Held.worker (h : e.Held) {w : Worker MemoryStore σ} (hi : e.workers[i]? = some w) :
    (e.stepWorker i w).Held := by
  have hw := h.workers i w hi
  have self : (e.stepWorker i w).workers[i]? =
    some (w.step e.hall.dispatcher i (Task.worker i) e.hall.now
      e.hall.shift e.hall.bell e.locks e.hall.world).1 :=
    getElem?_set_place hi
  have others : ∀ j, Task.worker i ≠ .worker j → (e.stepWorker i w).workers[j]? = e.workers[j]? :=
    fun j hj => List.getElem?_set_ne fun he => hj (congrArg Task.worker he)
  refine h.acted (Worker.sound_step e.hall.shift _ _ _ _ _ h.locks hw.1)
    (fun u => Worker.claim?_step_of_ne e.hall.shift _ _ _ _ _ _ _)
    (fun u hu id hk r => Worker.find?_step e.hall.shift _ _ _ _ _ h.locks hw.1 hu hk)
    (fun j v hj hv => .inl ((others j hj).symm.trans hv)) (fun j hj => ?_) (fun _ _ => rfl)
    (fun j v hj hv => ?_) (fun j c hj _ => nomatch hj)
  · have hne : Task.worker i ≠ .worker j := by
      rintro ⟨⟩
      exact absurd (self.symm.trans hj) nofun
    exact ⟨(others j hne).symm.trans hj, hne⟩
  · cases hj
    cases self.symm.trans hv
    exact ⟨Worker.fits_step e.hall.shift _ _ _ _ _ h.locks hw.1, Worker.prompt_step hw.2 ..⟩

theorem Held.delivery (h : e.Held) {d : Delivery MemoryStore σ α}
    (hi : e.calls[i]? = some (.delivery d)) : (e.stepCall i (.delivery d)).Held := by
  have hd : d.Staked (e.locks.claim? (Task.call i)) ∧ d.Minds e.hall.world.store := h.calls i _ hi
  have self : (e.stepCall i (.delivery d)).calls[i]? =
    some (.delivery (d.step e.hall.dispatcher (Task.call i)
      e.hall.now e.locks e.hall.world).1) := getElem?_set_place hi
  have records : e.Minds (Task.call i) (e.stepCall i (.delivery d)).hall.world.store := by
    intro u hu id hk r hr
    rcases Delivery.store_step e.hall.dispatcher (Task.call i) e.hall.now e.locks hd.2 with hs |
      ⟨x, m, o, rfl, hs⟩
    · exact (congrArg (·.find? id) hs).trans hr
    · have hself : Delivery.Stake x.key .holding (e.locks.claim? (Task.call i)) := hd.1
      exact hs.find?_of_ne (fun he => hu (h.locks.eq_of_stake hk (he ▸ hself))) hr
  refine h.acted (Delivery.sound_step h.locks hd.1)
    (fun u hu => Delivery.claim?_step_of_ne hu) records
    (fun j w _ hw => .inl hw) (fun j hj => ⟨hj, nofun⟩)
    (fun j hj => List.getElem?_set_ne fun he => hj (congrArg Task.call he))
      (fun j w hj _ => nomatch hj)
    (fun j c hj hc => ?_)
  cases hj
  cases self.symm.trans hc
  exact ⟨Delivery.staked_step h.locks hd.1, Delivery.minds_step hd.2⟩

theorem Held.free (h : e.Held) {c d : Call MemoryStore σ α} (hi : e.calls[i]? = some c)
    (hn : e.locks.claim? (Task.call i) = none) (locks : e'.locks = e.locks)
    (records : ∀ (id : Int) (r : Notification), e.hall.world.store.find? id = some r →
      e'.hall.world.store.find? id = some r)
    (workers : ∃ k, e'.workers = e.workers ++ List.replicate k .turning)
    (calls : e'.calls = e.calls.set i d) (fits : d.Fits e'.hall.world.store none) : e'.Held := by
  obtain ⟨k, hw⟩ := workers
  refine h.acted (t := .call i) (locks ▸ h.locks) (fun _ _ => by rw [locks])
    (fun _ _ id _ => records id)
    (fun j w _ hj => ?_) (fun j hj => ⟨?_, nofun⟩)
    (fun j hj => by rw [calls]; exact List.getElem?_set_ne fun he => hj (congrArg Task.call he))
    (fun j w hj _ => nomatch hj)
    (fun j b hj hb => ?_)
  · rw [hw, List.getElem?_append] at hj
    split at hj
    · exact .inl hj
    · next hl =>
      refine .inr ⟨List.getElem?_eq_none (by omega), ?_⟩
      exact List.eq_of_mem_replicate (List.mem_of_getElem? hj)
  · rw [hw, List.getElem?_eq_none_iff, List.length_append] at hj
    exact List.getElem?_eq_none (by omega)
  · cases hj
    rw [calls, getElem?_set_place hi] at hb
    cases hb
    rw [locks, hn]
    exact fits

theorem Held.stepCall (h : e.Held) {c : Call MemoryStore σ α} (hi : e.calls[i]? = some c) :
    (e.stepCall i c).Held := by
  have hc := h.calls i c hi
  have same : ∃ k, e.workers = e.workers ++ List.replicate k .turning := ⟨0, by simp⟩
  cases c with
  | once f => exact h.free hi hc.2 rfl (hc.1 e.hall).2 same rfl rfl
  | keeping source f =>
    simp only [Engine.stepCall, Hall.onStore]
    split
    · exact h.free hi hc rfl (fun _ _ => id) same rfl rfl
    · next n _ =>
      have added (id : Int) (r : Notification) (hr : e.hall.world.store.find? id = some r) :
          (Service.keep n e.hall.now e.hall.world.store).2.find? id = some r := by
        rw [Hall.keep_eq]
        split
        · exact hr
        · exact MemoryStore.find?_append_of_some hr _
      split
      · next he =>
        obtain ⟨_, rfl⟩ := Prod.mk.inj he
        exact h.free hi hc rfl added same rfl rfl
      · next he =>
        obtain ⟨_, rfl⟩ := Prod.mk.inj he
        exact h.free hi hc rfl added same rfl rfl
  | telling n a => exact h.free hi hc rfl (fun _ _ => id) same rfl rfl
  | delivery d => exact h.delivery hi
  | starting s f =>
    cases s with
    | asking => exact h.free hi hc rfl (fun _ _ => id) same rfl rfl
    | claiming =>
      simp only [Engine.stepCall, StartCall.step, setCall]
      split
      · exact h.free hi hc rfl (fun _ _ => id) same rfl rfl
      · exact h.free hi hc rfl (fun _ _ => id) same rfl rfl
    | hiring =>
      simp only [Engine.stepCall, StartCall.step, setCall]
      split
      · exact h.free hi hc rfl (fun _ _ => id) same rfl rfl
      · exact h.free hi hc rfl (fun _ _ => id) ⟨_, rfl⟩ rfl rfl
    | returned => exact h.free hi hc rfl (fun _ _ => id) same rfl rfl
  | stopping s f =>
    cases s with
    | returned => exact h.free hi hc.2 rfl (hc.1 e.hall).2 same rfl rfl
    | _ => exact h.free hi hc.2 rfl (fun _ _ => id) same rfl ⟨hc.1, rfl⟩
  | _ => exact h

theorem Held.happen (h : e.Held) (x : Event) : (e.happen x).Held := by
  cases x with
  | step t =>
    cases t with
    | worker i =>
      cases hi : e.workers[i]? with
      | none => simpa only [Engine.happen, Engine.step, hi] using h
      | some w => simpa only [Engine.happen, Engine.step, hi] using h.worker hi
    | call i =>
      cases hi : e.calls[i]? with
      | none => simpa only [Engine.happen, Engine.step, hi] using h
      | some c => simpa only [Engine.happen, Engine.step, hi] using h.stepCall hi
  | cancel => exact ⟨h.locks, h.workers, h.calls, h.absent⟩
  | timeUp i =>
    simp only [Engine.happen]
    split
    · next hi =>
      have hw := h.workers i _ hi
      refine ⟨h.locks, fun j w hj => ?_, h.calls, fun j hj => h.absent j (by simpa using hj)⟩
      rcases getElem?_set_cases hj with ⟨rfl, rfl⟩ | ⟨_, hj⟩
      · exact ⟨hw.1, trivial⟩
      · exact h.workers j w hj
    · exact h

theorem Held.after (h : e.Held) (xs : List Event) : (e.after xs).Held := by
  induction xs generalizing e with
  | nil => exact h
  | cons x xs ih => exact ih (h.happen x)

def Attempts (e : Engine MemoryStore σ α) (i : Nat) (n : Notification) : Prop :=
  ∃ w, e.workers[i]? = some w ∧ w.attempted? = some n

/-- The worker at this place writes the outcome of its attempt down, and the record shows it. -/
def Records (e : Engine MemoryStore σ α) (i : Nat) (n : Notification) (x : Event) : Prop :=
  x = .step (.worker i) ∧ ∃ (errand : Errand MemoryStore Bool) (o : Outcome) (id : Int),
    e.workers[i]? = some (.inside (.finishing errand n o)) ∧ n.id = some id ∧
    (e.happen x).hall.world.store.find? id =
      some (n.settled o e.hall.dispatcher.config.retry e.hall.now)

theorem records_of_finishing (h : e.Held) {x : Errand MemoryStore Bool} {o : Outcome}
    (hi : e.workers[i]? = some (.inside (.finishing x n o))) :
    e.Records i n (.step (.worker i)) := by
  obtain ⟨⟨_, ⟨_, current⟩, _⟩, id, retries, hid⟩ := h.workers i _ hi
  have found := current.found id retries.key_eq
  have hstore : (e.happen (.step (.worker i))).hall.world.store =
      (x.finish e.hall.dispatcher.config.retry e.hall.now n o e.hall.world.store).2 := by
    simp only [happen, step, hi]
    rfl
  refine ⟨rfl, x, o, id, hi, hid, ?_⟩
  rw [hstore, retries.store_finish, Notification.recordAttempt_eq current.1]
  simp only [Store.update, Notification.id_settled, hid, found]
  rw [MemoryStore.find?_replace_self found Notification.id_settled]

theorem attempts_stepWorker (h : e.Held) {w : Worker MemoryStore σ} (hi : e.workers[i]? = some w)
    (hn : w.attempted? = some n) :
    (e.happen (.step (.worker i))).Attempts i n ∨ e.Records i n (.step (.worker i)) := by
  have hs : e.happen (.step (.worker i)) = e.stepWorker i w := by simp only [happen, step, hi]
  have self : (e.stepWorker i w).workers[i]? =
    some (w.step e.hall.dispatcher i (Task.worker i) e.hall.now
      e.hall.shift e.hall.bell e.locks e.hall.world).1 :=
    getElem?_set_place hi
  cases w with
  | inside d =>
    cases d with
    | attempting x a =>
      cases hn
      refine .inl ⟨_, (congrArg (·.workers[i]?) hs).trans self, ?_⟩
      simp only [Worker.step, Delivery.answer?, Delivery.step]
      cases ha : a.step e.hall.world.outside with
      | mk r outside =>
        cases r with
        | inl b => exact congrArg some (Attempt.same_of_step ha).1
        | inr o => rfl
    | finishing x m o =>
      cases hn
      exact .inr (records_of_finishing h hi)
    | _ => cases hn
  | _ => cases hn

theorem workers_stepCall (h : e.Held) {j : Nat} {c : Call MemoryStore σ α}
    (hj : e.calls[j]? = some c) : ∃ ws, (e.stepCall j c).workers = e.workers ++ ws := by
  rcases turn_stepCall e j (Call.discreet_of_fits (h.calls j c hj)) with he | ⟨d, turn, _⟩
  · exact ⟨[], by rw [he, List.append_nil]⟩
  · generalize (e.stepCall j c).hall.shift = sh at turn
    generalize (e.stepCall j c).workers = ws at turn ⊢
    cases turn with
    | hired => exact ⟨_, rfl⟩
    | _ => exact ⟨[], (List.append_nil _).symm⟩

theorem attempts_happen (h : e.Held) (ha : e.Attempts i n) (x : Event) :
    (e.happen x).Attempts i n ∨ e.Records i n x := by
  obtain ⟨w, hi, hn⟩ := ha
  cases x with
  | step t =>
    cases t with
    | worker j =>
      by_cases hij : j = i
      · subst hij
        exact attempts_stepWorker h hi hn
      · refine .inl ⟨w, ?_, hn⟩
        simp only [happen, step]
        split
        · exact hi
        · exact (List.getElem?_set_ne hij).trans hi
    | call j =>
      refine .inl ⟨w, ?_, hn⟩
      simp only [happen, step]
      split
      · exact hi
      · next c hj =>
        obtain ⟨ws, hw⟩ := workers_stepCall h hj
        rw [hw, List.getElem?_append_left (List.getElem?_eq_some_iff.1 hi).1]
        exact hi
  | cancel => exact .inl ⟨w, hi, hn⟩
  | timeUp j =>
    refine .inl ⟨w, ?_, hn⟩
    simp only [happen]
    split
    · next hj =>
      have hij : j ≠ i := by
        rintro rfl
        cases hi.symm.trans hj
        cases hn
      exact (List.getElem?_set_ne hij).trans hi
    · exact hi

theorem recorded_after (h : e.Held) (ha : e.Attempts i n) {xs : List Event}
    (hx : ¬ (e.after xs).Attempts i n) :
    ∃ ys x zs, xs = ys ++ x :: zs ∧ (e.after ys).Records i n x := by
  induction xs generalizing e with
  | nil => exact absurd ha hx
  | cons x xs ih =>
    rcases attempts_happen h ha x with hs | hs
    · obtain ⟨ys, y, zs, rfl, hr⟩ := ih (h.happen x) hs hx
      exact ⟨x :: ys, y, zs, rfl, hr⟩
    · exact ⟨[], x, xs, rfl, hs⟩

def opened (h : Hall MemoryStore σ) (calls : List (Call MemoryStore σ α)) :
    Engine MemoryStore σ α :=
  { (ofHall h : Engine MemoryStore σ α) with calls }

variable {h : Hall MemoryStore σ} {calls : List (Call MemoryStore σ α)}

theorem held_opened (begins : ∀ c ∈ calls, c.Begins) : (opened h calls).Held where
  locks := KeyLock.Sound.empty
  workers _ _ hi := by cases hi
  calls _ c hi := Call.fits_of_begins (begins c (List.mem_of_getElem? hi)) _
  absent _ _ := rfl

theorem managed_opened (fresh : h.shift = {}) (begins : ∀ c ∈ calls, c.Begins) :
    (opened h calls).pool.Managed where
  discreet c hc := Call.discreet_of_fits (Call.fits_of_begins (begins c hc) h.world.store)
  started hn := absurd rfl hn
  hiring i f hi := (begins _ (List.mem_of_getElem? hi)).elim
  joining i f hi := (begins _ (List.mem_of_getElem? hi)).elim
  cancelled hj := by simp [pool, opened, ofHall, fresh] at hj
  waiting i n f hi := (begins _ (List.mem_of_getElem? hi)).elim
  awaited hj := by simp [pool, opened, ofHall, fresh] at hj

/-- None of the workers works any more, now or later. -/
def IsClosedForGood (e : Engine MemoryStore σ α) : Prop :=
  ∀ later, ∀ w ∈ (e.after later).workers, w.isStopped = true

theorem closedForGood (hm : e.pool.Managed) (hc : e.pool.IsClosed) :
    e.IsClosedForGood := fun later =>
  (pool_after (fun _ _ _ _ => Pool.isClosed_of_stirred) hm hc later).2.2

/-- Whatever the order of the events: workers are hired once at most, and never after a call has
come to wait for them, which takes an end that was asked for. If a call to stop the pool has
returned, then one is still waiting, or no worker works any more; and the one that waits returns
only then. Of every attempt that a worker had begun by that time the outcome is written down. -/
theorem closed_behind_the_last {h : Hall MemoryStore σ} (fresh : h.shift = {})
    {calls : List (Call MemoryStore σ α)} (begins : ∀ c ∈ calls, c.Begins) (events : List Event) :
    let e := (opened h calls).after events
    (e.workers ≠ [] ∨ e.hall.shift.joined = true →
      ∀ later, (e.after later).workers.length = e.workers.length) ∧
    (e.hall.shift.joined = true → e.hall.shift.cancelled = true) ∧
    (∀ (i : Nat) (f : Hall MemoryStore σ → α × Hall MemoryStore σ) (c : Call MemoryStore σ α),
      calls[i]? = some (.stopping .cancelling f) → e.calls[i]? = some c → c.HasReturned →
        e.pool.IsAwaited ∨ e.IsClosedForGood) ∧
    (∀ (i k : Nat) (f : Hall MemoryStore σ → α × Hall MemoryStore σ),
      e.calls[i]? = some (.stopping (.waiting k) f) → ∀ later (c : Call MemoryStore σ α),
        (e.after later).calls[i]? = some c → c.HasReturned → (e.after later).IsClosedForGood) ∧
    ∀ (i : Nat) (n : Notification), e.Attempts i n → ∀ later,
      (∀ w ∈ (e.after later).workers, w.isStopped = true) →
        ∃ before x behind, later = before ++ x :: behind ∧ (e.after before).Records i n x := by
  intro e
  have managed := managed_opened fresh begins
  have hm : e.pool.Managed :=
    (pool_after (P := fun _ => True) (fun _ _ _ _ _ _ => trivial) managed trivial events).1
  have held : e.Held := (held_opened begins).after events
  refine ⟨fun hn => length_after hm hn, hm.cancelled, fun i f c hi hc hr => ?_,
    fun i k f hi later c hc hr => ?_, fun i n ha later hl => ?_⟩
  -- a call that returns has looked for the workers: it found them, or another call came before it
  · have come : e.pool.HasCome i :=
      (pool_after (fun _ _ _ _ => Pool.hasCome_of_stirred) managed (.inr ⟨f, .inl hi⟩) events).2
    have joined : e.hall.shift.joined = true := by
      refine come.resolve_right ?_
      rintro ⟨g, hg | hg⟩
      · cases hc.symm.trans hg
        exact hr
      · cases hc.symm.trans hg
        exact hr
    rcases hm.awaited joined with stopped | awaited
    · exact .inr (closedForGood hm ⟨joined, stopped⟩)
    · exact .inl awaited
  · obtain ⟨hm', hw⟩ := pool_after (fun _ _ _ hp hw => Pool.waits_of_stirred hp hw) hm
      (.inl ⟨k, f, hi⟩) later
    rcases hw with ⟨k', g, hg⟩ | closed
    · cases hc.symm.trans hg
      exact hr.elim
    · exact closedForGood hm' closed
  -- whoever has stopped is not in the middle of an attempt, so the outcome came in between
  · refine recorded_after held ha ?_
    rintro ⟨w, hw, hn⟩
    have hs := hl w (List.mem_of_getElem? hw)
    cases w with
    | stopped => cases hn
    | _ => cases hs

def evening : Engine MemoryStore Unit Unit :=
  let post : PushChannel Unit := ⟨"post", fun _ => true, fun _ => true, some {}, 1, fun _ _ s => s,
    fun _ _ s => (.ok (), s)⟩
  let d : Dispatcher Unit :=
    ⟨Roster.enlist .empty post, fun _ _ _ => .ok ⟨⟨.text, "", ""⟩, .empty⟩, .empty, {}⟩
  let s := (MemoryStore.empty.setPreferences (.ofList [("ann", { user := "ann" })])).append
    (.create "ann" "news" .epoch)
  let stop : Call MemoryStore Unit Unit := .stopping .cancelling fun h => ((), h)
  opened (.create .epoch ⟨s, ()⟩ d (.empty .empty) 1) [.starting .asking fun _ => (), stop, stop]

def untilPushing : List Event :=
  List.replicate 4 (.step (.call 0)) ++ List.replicate 6 (.step (.worker 0)) ++
    List.replicate 2 (.step (.call 1))

theorem closed_behind_the_last_of_two :
    let n : Notification := { Notification.create "ann" "news" .epoch with id := some 1 }
    let later : List Event := List.replicate 12 (.step (.worker 0)) ++ [.step (.call 1)]
    let e := evening.after untilPushing
    evening.hall.shift = {} ∧ e.pool.IsAwaited ∧ e.Attempts 0 n ∧ (e.after later).IsClosedForGood ∧
      ∃ before x behind, later = before ++ x :: behind ∧ (e.after before).Records 0 n x := by
  intro n later e
  have begins : ∀ c ∈ evening.calls, c.Begins := by
    intro c hc
    have hc : c ∈ [_, _, _] := hc
    simp only [List.mem_cons, List.not_mem_nil, or_false] at hc
    rcases hc with rfl | rfl | rfl
    · trivial
    · exact fun h => ⟨rfl, fun _ _ => id⟩
    · exact fun h => ⟨rfl, fun _ _ => id⟩
  have stopped : ∀ w ∈ (e.after later).workers, w.isStopped = true := by
    have hall : (e.after later).workers.all Worker.isStopped = true := by decide +kernel
    exact List.all_eq_true.1 hall
  have hw : e.Attempts 0 n := ⟨_, rfl, by decide +kernel⟩
  obtain ⟨_, _, _, waits, attempts⟩ :=
    closed_behind_the_last (h := evening.hall) rfl begins untilPushing
  exact ⟨rfl, ⟨1, 1, _, rfl⟩, hw, waits 1 1 _ rfl later _ rfl trivial,
    attempts 0 n hw later stopped⟩

/-- A second call to stop the pool returns at once, while the worker is in the middle of a push. -/
theorem returned_before_the_end :
    let e := evening.after (untilPushing ++ List.replicate 3 (.step (.call 2)))
    (e.calls[2]?).any Call.isOver = true ∧ e.pool.IsAwaited ∧
      e.Attempts 0 { Notification.create "ann" "news" .epoch with id := some 1 } ∧
      (e.hall.world.store.find? 1).map (·.push) = some (.queuedAt .epoch) :=
  ⟨by decide +kernel, ⟨1, 1, _, rfl⟩, ⟨_, rfl, by decide +kernel⟩, by decide +kernel⟩

end Engine

end Herald
