import Herald.Proofs.Store.Postponement
import Herald.Proofs.Delivery.SingleFlight
/-!
Attempts side by side while the clock goes on. After a failure that may pass, the notification waits
as long as the policy says, whichever calls are made for it and however old the copies are that they
name.
-/

set_option autoImplicit false

namespace Herald

namespace Errand

variable {S α β γ : Type} [Store S] {e : Errand S α} {id : Int} {n : Notification} {o : Outcome}
  {p : RetryPolicy} {now : Instant} {s : S}

omit [Store S] in
theorem map_map (e : Errand S α) (f : α → β) (g : β → γ) :
    (e.map f).map g = e.map fun a => g (f a) := by
  simp only [map, mk.injEq, and_true, true_and]
  funext now s
  cases e.start now s <;> rfl

def Retries (id : Int) (e : Errand S α) : Prop := ∃ f :
    Except Fault Processing → α, e = (queued id).map f

theorem Retries.key_eq (h : e.Retries id) : e.key = some id := by
  obtain ⟨f, rfl⟩ := h
  rfl

theorem Retries.due_of_start (h : e.Retries id) (hs : e.start now s = .inr n) :
    Store.get id s = .ok (some n) ∧ n.isDue now = true := by
  obtain ⟨f, rfl⟩ := h
  simp only [map, queued] at hs
  cases hg : (Store.get id s : Except Fault (Option Notification)) with
  | error f => simp [hg] at hs
  | ok r =>
    cases r with
    | none => simp [hg] at hs
    | some m =>
      cases hd : m.isDue now with
      | false => simp [hg, hd] at hs
      | true =>
        simp only [hg, hd, if_true, Sum.inr.injEq] at hs
        subst hs
        exact ⟨rfl, hd⟩

theorem Retries.store_finish (h : e.Retries id) : (e.finish p now n o s).2 =
    match n.recordAttempt o p now with
    | .error _ => s
    | .ok m => (Store.update m s).2 := by
  obtain ⟨f, rfl⟩ := h
  simp only [map, queued]
  cases n.recordAttempt o p now with
  | error f => rfl
  | ok m =>
    cases hu : Store.update m s with
    | mk a t => cases a <;> simp only [hu]

end Errand

namespace Delivery

variable {S σ α τ : Type} {id : Int}

def Attempts (id : Int) : Delivery S σ α → Prop
  | .attempting e _ | .finishing e _ _ => e.key = some id
  | _ => False

theorem not_attempts_leave (e : Errand S α) (a : α) :
    ¬ (leave e a : Delivery S σ α).Attempts id := by
  unfold leave
  split <;> exact not_false

theorem Attempts.stake {d : Delivery S σ α} {c : Option (Claim τ Int)} (h : d.Attempts id)
    (hd : d.Staked c) : Stake (some id) .holding c := by
  cases d with
  | attempting e a => exact (show e.key = some id from h) ▸ hd
  | finishing e n o => exact (show e.key = some id from h) ▸ hd
  | _ => exact h.elim

variable [Store S] {kept : Instant → Instant} {b : Instant}

def Prompt : Delivery S σ α → Prop
  | .opening f => ∀ now s, (f now s).2 = (Store.getNext now s).2 ∧
    ∀ e, (f now s).1 = .inr e → ∃ id, e.Retries id
  | .claiming e | .awaiting e | .starting e => ∃ id, e.Retries id
  | .attempting e a => ∃ id, e.Retries id ∧ a.notification.id = some id
  | .finishing e n _ => ∃ id, e.Retries id ∧ n.id = some id
  | .releasing _ | .evicting _ | .done _ => True

def Call.isProcess : Call α → Bool
  | .dispatchNow .. => false
  | .processQueued .. | .processNext _ => true

theorem prompt_ofErrand {e : Errand S α} (h : e.Retries id) :
    (ofErrand e : Delivery S σ α).Prompt := by
  unfold ofErrand
  split <;> exact ⟨id, h⟩

theorem prompt_leave (e : Errand S α) (a : α) : (leave e a : Delivery S σ α).Prompt := by
  unfold leave
  split <;> trivial

theorem staked_ofCall (c : Call α) :
    (ofCall c : Delivery S σ α).Staked (none : Option (Claim τ Int)) := by
  cases c with
  | dispatchNow n f =>
    simp only [ofCall, dispatchNow, map_ofErrand]
    exact staked_ofErrand _
  | processQueued n f =>
    simp only [ofCall, processQueued, Errand.process]
    cases n.id with
    | none => rfl
    | some id =>
      simp only [map_ofErrand]
      exact staked_ofErrand _
  | processNext f => rfl

theorem prompt_ofCall {c : Call α} (h : c.isProcess = true) :
    (ofCall c : Delivery S σ α).Prompt := by
  cases c with
  | dispatchNow n f => cases h
  | processQueued n f =>
    simp only [ofCall, processQueued, Errand.process]
    cases n.id with
    | none => trivial
    | some id =>
      simp only [map_ofErrand]
      exact prompt_ofErrand ⟨f, rfl⟩
  | processNext f =>
    intro now s
    cases hg : (Store.getNext now s : Except Fault (Option Notification) × S) with
    | mk r t =>
      cases r with
      | error e => simp [hg]
      | ok r =>
        cases r with
        | none => simp [hg]
        | some n =>
          simp only [hg, Errand.process]
          cases n.id with
          | none => simp
          | some id =>
            refine ⟨rfl, fun e he => ⟨id, fun r => f (r.map some), ?_⟩⟩
            cases he
            exact Errand.map_map ..

section Steps

variable [DecidableEq τ] {disp : Dispatcher σ} {task : τ} {now : Instant}
    {l : KeyLock τ Int} {w : World S σ} {d : Delivery S σ α}

theorem prompt_step (hk : Store.Punctual S kept) (h : d.Prompt) :
    (d.step disp task now l w).1.Prompt := by
  have hm := d.moved_step disp task now l w
  generalize d.step disp task now l w = r at hm ⊢
  cases hm with
  | opened found =>
    have hs := h now w.store
    rw [found] at hs
    obtain ⟨id, hr⟩ := hs.2 _ rfl
    exact prompt_ofErrand hr
  | fetched | unkeyed | entered | shut => exact h
  | spared | finished => exact prompt_leave _ _
  | unprepared started | begun started =>
    obtain ⟨id, hr⟩ := h
    exact ⟨id, hr, hk.id_of_get (hr.due_of_start started).1⟩
  | visited stepped =>
    obtain ⟨id, hr, hid⟩ := h
    exact ⟨id, hr, (Attempt.same_of_step stepped).1 ▸ hid⟩
  | closed => exact h
  | answered | released | evicted | idle => trivial

theorem attempts_of_step (h : (d.step disp task now l w).1.Attempts id) :
    d.Attempts id ∨ ∃ e n, d = .starting e ∧ e.key = some id ∧ e.start now w.store = .inr n := by
  have hm := d.moved_step disp task now l w
  generalize d.step disp task now l w = r at hm h
  cases hm with
  | opened =>
    simp only [ofErrand] at h
    split at h <;> exact h.elim
  | spared | finished => exact (not_attempts_leave _ _ h).elim
  | unprepared started | begun started => exact .inr ⟨_, _, rfl, h, started⟩
  | visited | closed => exact .inl h
  | _ => exact h.elim

theorem notBefore_step (hk : Store.Punctual S kept) (h : d.Prompt) (hd : ¬ d.Attempts id)
    (hb : Store.NotBefore id b w.store) :
    Store.NotBefore id b (d.step disp task now l w).2.2.store := by
  have hm := d.moved_step disp task now l w
  generalize d.step disp task now l w = r at hm ⊢
  cases hm with
  | answered found | opened found =>
    have hf := hk.fetched now hb
    rw [← (h now w.store).1, found] at hf
    exact hf
  | @finished e n o =>
    obtain ⟨i, hr, hid⟩ := h
    simp only [hr.store_finish]
    split
    · exact hb
    · next m hm =>
      obtain ⟨_, rfl⟩ := Notification.settled_of_recordAttempt hm
      refine hk.others ?_ hb
      rw [Notification.id_settled, hid]
      exact fun he => hd (hr.key_eq.trans he)
  | _ => exact hb

end Steps

end Delivery

namespace Traffic

variable {S σ α : Type} [Store S]

def ofCalls (d : Dispatcher σ) (now : Instant) (w : World S σ) (calls : List (Delivery.Call α)) :
    Traffic S σ α :=
  ⟨d, now, .empty, w, calls.map Delivery.ofCall⟩

inductive Tick (σ : Type) where
  | step (place : Nat)
  | clock (now : Instant)
  | outside (s : σ)

def tick (t : Traffic S σ α) : Tick σ → Traffic S σ α
  | .step place => t.step place
  | .clock now => { t with now }
  | .outside s => { t with world.outside := s }

/-- From this time on the clock does not go back, and shows no inserted second. -/
def Steady (now : Instant) : List (Tick σ) → Prop
  | [] => now.Plain
  | .clock t :: ts => now.Plain ∧ now ≤ t ∧ Steady t ts
  | .step _ :: ts | .outside _ :: ts => Steady now ts

/-- What is known of attempts: when one was started, and when one was written down that failed so
often and is to be tried again. -/
inductive Note where
  | started (id : Int) (time : Instant)
  | putOff (id : Int) (time : Instant) (count : UInt32)
  deriving DecidableEq, Repr

def Note.time : Note → Instant
  | .started _ time | .putOff _ time _ => time

def note? (t : Traffic S σ α) : Tick σ → Option Note
  | .step place =>
    match t.deliveries[place]? with
    | some (.starting e) =>
      match e.start t.now t.world.store with
      | .inl _ => none
      | .inr n => n.id.map (.started · t.now)
    | some (.finishing _ n o) =>
      match n.recordAttempt o t.dispatcher.config.retry t.now with
      | .error _ => none
      | .ok m =>
        match Store.update m t.world.store with
        | (.error _, _) => none
        | (.ok _, _) =>
          if m.push.state = .queued then m.id.map (.putOff · t.now m.push.errorCount) else none
    | _ => none
  | _ => none

def notes (t : Traffic S σ α) : List (Tick σ) → List Note
  | [] => []
  | k :: ks => (t.note? k).toList ++ (t.tick k).notes ks

variable {t : Traffic S σ α} {ns : List Note} {kept : Instant → Instant} {i : Nat} {id : Int}

def Reserved (t : Traffic S σ α) (id : Int) (b : Instant) : Prop :=
  b ≤ t.now ∨ Store.NotBefore id b t.world.store ∧
    ∀ (i : Nat) (d : Delivery S σ α), t.deliveries[i]? = some d → ¬ d.Attempts id

/-- What holds between any two ticks, with what was noted so far. -/
structure Patient (kept : Instant → Instant) (t : Traffic S σ α) (ns : List Note) :
    Prop extends Held t where
  prompt : ∀ (i : Nat) (d : Delivery S σ α), t.deliveries[i]? = some d → d.Prompt
  reserved : ∀ id time count, .putOff id time count ∈ ns →
    t.Reserved id (kept (time.plus (t.dispatcher.config.retry.backoff.delay count)))
  waited : ∀ id time count later, [.putOff id time count, .started id later].Sublist ns →
    kept (time.plus (t.dispatcher.config.retry.backoff.delay count)) ≤ later

theorem patient_ofCalls (d : Dispatcher σ) (now : Instant) (w : World S σ)
    {calls : List (Delivery.Call α)}
    (hc : ∀ c ∈ calls, c.isProcess = true) : (ofCalls d now w calls).Patient kept [] where
  locks := KeyLock.Sound.empty
  staked i d hi := by
    simp only [ofCalls, List.getElem?_map, Option.map_eq_some_iff] at hi
    obtain ⟨c, _, rfl⟩ := hi
    exact Delivery.staked_ofCall c
  prompt i d hi := by
    simp only [ofCalls, List.getElem?_map, Option.map_eq_some_iff] at hi
    obtain ⟨c, hi, rfl⟩ := hi
    exact Delivery.prompt_ofCall (hc c (List.mem_of_getElem? hi))
  reserved := by simp
  waited := by simp

theorem started_of_note? {later : Instant} (h : t.note? (.step i) = some (.started id later)) :
    later = t.now ∧ ∃ e n, t.deliveries[i]? = some (.starting e) ∧
    e.start t.now t.world.store = .inr n ∧
      n.id = some id := by
  simp only [note?] at h
  split at h
  · next e hi =>
    split at h
    · cases h
    · next n hn =>
      obtain ⟨j, hj, hx⟩ := Option.map_eq_some_iff.1 h
      cases hx
      exact ⟨rfl, e, n, hi, hn, hj⟩
  · split at h
    · cases h
    · split at h
      · cases h
      · split at h
        · obtain ⟨_, _, hx⟩ := Option.map_eq_some_iff.1 h
          cases hx
        · cases h
  · cases h

theorem putOff_of_note? {time : Instant} {count : UInt32}
    (h : t.note? (.step i) = some (.putOff id time count)) :
    time = t.now ∧ ∃ e n o m s, t.deliveries[i]? = some (.finishing e n o) ∧
      n.recordAttempt o t.dispatcher.config.retry t.now = .ok m ∧
      Store.update m t.world.store = (.ok (), s) ∧ m.push.state = .queued ∧ m.id = some id ∧
      m.push.errorCount = count := by
  simp only [note?] at h
  split at h
  · split at h
    · cases h
    · obtain ⟨_, _, hx⟩ := Option.map_eq_some_iff.1 h
      cases hx
  · next e n o hi =>
    split at h
    · cases h
    · next m hm =>
      split at h
      · cases h
      · next s hu =>
        split at h
        · next hq =>
          obtain ⟨j, hj, hx⟩ := Option.map_eq_some_iff.1 h
          cases hx
          exact ⟨rfl, e, n, o, m, s, hi, hm, hu, hq, hj, rfl⟩
        · cases h
  · cases h

namespace Patient

/-- A started attempt is due, so its notification is not reserved any more. -/
theorem le_now_of_started (hk : Store.Punctual S kept) (h : t.Patient kept ns) {b : Instant}
    {e : Errand S α} {n : Notification} (hi : t.deliveries[i]? = some (.starting e))
    (hn : e.start t.now t.world.store = .inr n) (hid : e.key = some id ∨ n.id = some id)
    (hb : t.Reserved id b) : b ≤ t.now := by
  rcases hb with hb | ⟨hb, _⟩
  · exact hb
  · obtain ⟨j, hr⟩ := h.prompt i _ hi
    obtain ⟨hg, hd⟩ := hr.due_of_start hn
    have hj : j = id := by
      rcases hid with hid | hid
      · exact Option.some.inj (hr.key_eq.symm.trans hid)
      · exact Option.some.inj ((hk.id_of_get hg).symm.trans hid)
    subst hj
    have hdate := hb n hg (Notification.queued_of_isDue hd)
    simp only [Notification.isDue, Bool.and_eq_true, decide_eq_true_eq] at hd
    exact Instant.le_trans hdate hd.2

theorem reserved_step (hk : Store.Punctual S kept) (h : t.Patient kept ns) (i : Nat) {b : Instant}
    (hb : t.Reserved id b) : (t.step i).Reserved id b := by
  rcases hb with hb | ⟨hb, hno⟩
  · exact .inl (now_step t i ▸ hb)
  by_cases hstart : ∃ e n, t.deliveries[i]? = some (.starting e) ∧ e.key = some id ∧
      e.start t.now t.world.store = .inr n
  · obtain ⟨e, n, hi, hkey, hn⟩ := hstart
    exact .inl (now_step t i ▸ h.le_now_of_started hk hi hn (.inl hkey) (.inr ⟨hb, hno⟩))
  · refine .inr ⟨?_, fun j d hd hat => ?_⟩
    · cases hi : t.deliveries[i]? with
      | none =>
        rw [step_eq_self hi]
        exact hb
      | some d =>
        rw [(step_eq hi).1]
        exact Delivery.notBefore_step hk (h.prompt i d hi) (hno i d hi) hb
    · rcases delivery_step hd with ⟨_, hd⟩ | ⟨rfl, c, hc, rfl⟩
      · exact hno j d hd hat
      · rcases Delivery.attempts_of_step hat with hat | ⟨e, n, rfl, hstarts⟩
        · exact hno j c hc hat
        · exact hstart ⟨e, n, hc, hstarts⟩

/-- Whoever writes down that it is put off has the key, so nobody else attempts it. -/
theorem reserved_of_putOff (hk : Store.Punctual S kept) (h : t.Patient kept ns) {time : Instant}
    {count : UInt32} (hx : t.note? (.step i) = some (.putOff id time count)) :
    (t.step i).Reserved id (kept (time.plus (t.dispatcher.config.retry.backoff.delay count))) := by
  obtain ⟨rfl, e, n, o, m, s, hi, hm, hu, hq, hid, rfl⟩ := putOff_of_note? hx
  obtain ⟨hs, _⟩ := step_eq hi
  obtain ⟨j, hr, hj⟩ := h.prompt i _ hi
  obtain ⟨_, rfl⟩ := Notification.settled_of_recordAttempt hm
  have hji : j = id := Option.some.inj (hj.symm.trans hid)
  subst hji
  have hstore : (t.step i).world.store = s := by
    rw [hs]
    simp only [Delivery.step, hr.store_finish, hm, hu]
  obtain ⟨_, message, hpush⟩ := Notification.push_settled_of_queued hq
  have hb := hk.postponed hid hu
  refine .inr ⟨?_, fun k d hd hat => ?_⟩
  · rw [hstore]
    simpa only [hpush] using hb
  · rcases delivery_step hd with ⟨hki, hd⟩ | ⟨rfl, c, hc, rfl⟩
    · have hself := h.staked i _ hi
      exact hki (h.locks.eq_of_stake (hat.stake (h.staked k d hd)) (hr.key_eq ▸ hself))
    · rw [hi] at hc
      cases hc
      exact Delivery.not_attempts_leave _ _ hat

theorem prompt_step (hk : Store.Punctual S kept) (h : t.Patient kept ns) (i j : Nat)
    (d : Delivery S σ α) (hd : (t.step i).deliveries[j]? = some d) : d.Prompt := by
  rcases delivery_step hd with ⟨_, hd⟩ | ⟨rfl, c, hc, rfl⟩
  · exact h.prompt j d hd
  · exact Delivery.prompt_step hk (h.prompt j c hc)

theorem step (hk : Store.Punctual S kept) (h : t.Patient kept ns) (i : Nat) :
    (t.step i).Patient kept (ns ++ (t.note? (.step i)).toList) where
  toHeld := h.toHeld.step i
  prompt := h.prompt_step hk i
  reserved id time count hm := by
    rw [dispatcher_step]
    rcases List.mem_append.1 hm with hm | hm
    · exact h.reserved_step hk i (h.reserved id time count hm)
    · exact h.reserved_of_putOff hk (Option.mem_toList.1 hm)
  waited id time count later hs := by
    rw [dispatcher_step]
    cases hx : t.note? (.step i) with
    | none => exact h.waited id time count later (by simpa [hx] using hs)
    | some x =>
      rw [hx] at hs
      rcases sublist_concat (show ([_] ++ [_]).Sublist (ns ++ [x]) from hs) with hs | ⟨rfl, hm⟩
      · exact h.waited id time count later hs
      · obtain ⟨rfl, e, n, hi, hn, hid⟩ := started_of_note? hx
        exact h.le_now_of_started hk hi hn (.inr hid)
          (h.reserved id time count (hm.subset List.mem_cons_self))

theorem around (h : t.Patient kept ns) {now : Instant} (hn : t.now ≤ now) (outside : σ) :
    ({ t with now, world.outside := outside } : Traffic S σ α).Patient kept ns where
  toHeld := ⟨h.locks, h.staked⟩
  prompt := h.prompt
  reserved id time count hm :=
    (h.reserved id time count hm).imp_left fun hb => Instant.le_trans hb hn
  waited := h.waited

theorem waited_run (hk : Store.Punctual S kept) (h : t.Patient kept ns) (ticks : List (Tick σ))
    (steady : Steady t.now ticks) {time later : Instant} {count : UInt32}
    (hs : [Note.putOff id time count, .started id later].Sublist (ns ++ t.notes ticks)) :
    kept (time.plus (t.dispatcher.config.retry.backoff.delay count)) ≤ later := by
  induction ticks generalizing t ns with
  | nil =>
    rw [notes, List.append_nil] at hs
    exact h.waited id time count later hs
  | cons k ks ih =>
    rw [notes, ← List.append_assoc] at hs
    cases k with
    | step i =>
      have hd := ih (h.step hk i) (now_step t i ▸ steady) hs
      rwa [dispatcher_step] at hd
    | clock now =>
      rw [show t.note? (.clock now) = none from rfl, Option.toList_none, List.append_nil] at hs
      exact ih (t := { t with now }) (h.around steady.2.1 t.world.outside) steady.2.2 hs
    | outside s =>
      rw [show t.note? (.outside s) = none from rfl, Option.toList_none, List.append_nil] at hs
      exact ih (t := { t with world.outside := s }) (h.around (Instant.le_refl _) s) steady hs

end Patient

theorem time_of_note? {k : Tick σ} {x : Note} (h : t.note? k = some x) : x.time = t.now := by
  cases k with
  | step i =>
    cases x with
    | started id time => exact (started_of_note? h).1
    | putOff id time count => exact (putOff_of_note? h).1
  | clock | outside => cases h

theorem plain_of_steady {now : Instant} {ticks : List (Tick σ)}
    (steady : Steady now ticks) : now.Plain := by
  induction ticks with
  | nil => exact steady
  | cons k ks ih =>
    cases k with
    | clock => exact steady.1
    | step | outside => exact ih steady

theorem plain_notes {ticks : List (Tick σ)} (steady : Steady t.now ticks) :
    ∀ x ∈ t.notes ticks, x.time.Plain := by
  induction ticks generalizing t with
  | nil => simp [notes]
  | cons k ks ih =>
    intro x hx
    rcases List.mem_append.1 hx with hx | hx
    · rw [time_of_note? (Option.mem_toList.1 hx)]
      exact plain_of_steady steady
    · cases k with
      | step i => exact ih (t := t.step i) (now_step t i ▸ steady) x hx
      | clock now => exact ih (t := { t with now }) steady.2.2 x hx
      | outside s => exact ih (t := { t with world.outside := s }) steady x hx

theorem waited_ofCalls (hk : Store.Punctual S kept) (d : Dispatcher σ)
    {now : Instant} (w : World S σ)
    {calls : List (Delivery.Call α)} (hc : ∀ c ∈ calls, c.isProcess = true) {ticks : List (Tick σ)}
    (steady : Steady now ticks) {time later : Instant} {count : UInt32}
    (hs : [Note.putOff id time count,
      .started id later].Sublist ((ofCalls d now w calls).notes ticks)) :
    time.Plain ∧ later.Plain ∧ kept (time.plus (d.config.retry.backoff.delay count)) ≤ later := by
  have hp := plain_notes (t := ofCalls d now w calls) steady
  have ho : (ofCalls d now w calls).Patient kept [] := patient_ofCalls d now w hc
  have hw := ho.waited_run hk ticks steady (by simpa using hs)
  exact ⟨hp (.putOff id time count) (hs.subset (by simp)),
    hp (.started id later) (hs.subset (by simp)), hw⟩

/-- When an attempt was written down that has failed so often, with more to follow, no other attempt
of that notification is started before the delay is over, or the calendar. A table counts whole
milliseconds. -/
theorem waits_out_the_delay [Objections] (d : Dispatcher σ) {now : Instant}
    {calls : List (Delivery.Call α)} (hc : ∀ c ∈ calls, c.isProcess = true) {ticks : List (Tick σ)}
    (steady : Steady now ticks) (id : Int) (time later : Instant) (count : UInt32) :
    let delay := d.config.retry.backoff.delay count
    (∀ w : World MemoryStore σ,
      [Note.putOff id time count, .started id later].Sublist ((ofCalls d now w calls).notes ticks) →
      min (time.toNanos + delay.nanos) Instant.last.toNanos ≤ later.toNanos) ∧
    (∀ w : World Table σ,
      [Note.putOff id time count, .started id later].Sublist ((ofCalls d now w calls).notes ticks) →
      min (time.toNanos + delay.nanos) Instant.last.toNanos / 1000000 * 1000000 ≤
        later.toNanos) := by
  intro delay
  constructor
  · intro w hs
    obtain ⟨ht, hl, hle⟩ := waited_ofCalls MemoryStore.punctual d w hc steady hs
    rw [← Instant.toNanos_plus ht]
    exact (Instant.le_iff_toNanos (Instant.plain_plus ht delay) hl).1 hle
  · intro w hs
    obtain ⟨ht, hl, hle⟩ := waited_ofCalls Table.punctual d w hc steady hs
    rw [← Instant.toNanos_plus ht, ← Instant.toNanos_truncated (Instant.plain_plus ht delay)]
    exact (Instant.le_iff_toNanos (Instant.plain_truncated _) hl).1 hle

theorem waits_out_the_delay_of_two :
    let post : PushChannel Unit := .immediate "post" (fun _ => true) (fun _ => true) (some {})
      fun _ _ _ => (.error (.transient "later"), ())
    let d : Dispatcher Unit :=
      ⟨Roster.enlist .empty post, fun _ _ _ => .ok ⟨⟨.text, "", ""⟩, .empty⟩, .empty, {}⟩
    let n : Notification := .create "ann" "news" .epoch
    let s : MemoryStore :=
      (Store.savePreferences { user := "ann" } (Store.save n MemoryStore.empty).2).2
    let t : Table := (Store.savePreferences { user := "ann" } (Store.save n Table.empty).2).2
    let copy : Notification := { n with id := some 1 }
    let calls : List (Delivery.Call Unit) :=
      [.processNext fun _ => (), .processQueued copy fun _ => (), .processQueued copy fun _ => ()]
    let first : Instant := .ofNanos 900000
    let second : Instant := .ofNanos 60000500000
    let third : Instant := .ofNanos 61000000000
    let ticks : List (Tick Unit) := .clock first :: (List.replicate 12 (.step 0) ++
      .clock second :: (List.replicate 12 (.step 1) ++ .clock third :: List.replicate 12 (.step 2)))
    (∀ c ∈ calls, c.isProcess = true) ∧ Steady .epoch ticks ∧
    (ofCalls d .epoch ⟨s, ()⟩ calls).notes ticks =
      [.started 1 first, .putOff 1 first 1, .started 1 third, .putOff 1 third 2] ∧
    min (first.toNanos + 60000000000) Instant.last.toNanos ≤ third.toNanos ∧
    (ofCalls d .epoch ⟨t, ()⟩ calls).notes ticks =
      [.started 1 first, .putOff 1 first 1, .started 1 second, .putOff 1 second 2] ∧
    min (first.toNanos + 60000000000) Instant.last.toNanos / 1000000 * 1000000 ≤
      second.toNanos := by
  intro post d n s t copy calls first second third ticks
  have hc : ∀ c ∈ calls, c.isProcess = true := by
    intro c hc
    simp only [calls, List.mem_cons, List.not_mem_nil, or_false] at hc
    rcases hc with rfl | rfl | rfl <;> rfl
  have steady : Steady .epoch ticks := by
    refine ⟨by decide, by decide, ?_⟩
    show Steady first (.clock second :: _)
    refine ⟨by decide, by decide, ?_⟩
    show Steady second (.clock third :: _)
    exact ⟨by decide, by decide, show third.Plain by decide⟩
  have hs : (ofCalls d .epoch ⟨s, ()⟩ calls).notes ticks =
      [.started 1 first, .putOff 1 first 1, .started 1 third,
        .putOff 1 third 2] := by decide +kernel
  have ht : (ofCalls d .epoch ⟨t, ()⟩ calls).notes ticks =
      [.started 1 first, .putOff 1 first 1, .started 1 second,
        .putOff 1 second 2] := by decide +kernel
  refine ⟨hc, steady, hs, ?_, ht, ?_⟩
  · refine (waits_out_the_delay d hc steady 1 first third 1).1 ⟨s, ()⟩ ?_
    rw [hs]
    decide
  · refine (waits_out_the_delay d hc steady 1 first second 1).2 ⟨t, ()⟩ ?_
    rw [ht]
    decide

end Traffic

end Herald
