import Herald.Hall
import Herald.Proofs.Dispatcher.Errand
/-!
What becomes of a notification from operation to operation: it is queued, tried some times, and ends
delivered or given up, for good.
-/

set_option autoImplicit false

namespace Herald

namespace Notification

def Delivered (n m : Notification) : Prop :=
  m = { n with push := m.push } ∧ m.push.state = .pushed ∧ m.push.errorCount = n.push.errorCount ∧
    m.push.errorMessage = none

def Failed (n m : Notification) : Prop :=
  m = { n with push := m.push } ∧ (m.push.state = .queued ∨ m.push.state = .undeliverable) ∧
    m.push.errorCount.toNat = min (n.push.errorCount.toNat + 1) 4294967295 ∧
    m.push.errorMessage.isSome = true

/-- There were no more failures than the policy bears, or one more if none is to follow. -/
def Bounded (p : RetryPolicy) (n : Notification) : Prop :=
  n.push.errorCount.toNat ≤ p.maxErrorCount.toNat + 1 ∧
    (n.push.state = .queued → n.push.errorCount ≤ p.maxErrorCount)

variable {n : Notification} {o : Outcome} {p : RetryPolicy} {now : Instant}

theorem delivered_or_failed_settled :
    n.Delivered (n.settled o p now) ∨ n.Failed (n.settled o p now) := by
  cases ho : o.isSuccess with
  | true =>
    have hp := push_settled_of_success ho n p now
    exact .inl ⟨rfl, by rw [hp], by rw [hp], by rw [hp]⟩
  | false =>
    obtain ⟨date, message, hp⟩ := push_settled_of_failure ho n p now
    have hs := p.nextState_ne_pushed n.push.errorCount ho
    refine .inr ⟨rfl, ?_, ?_, by rw [hp]; rfl⟩
    · rw [hp]
      cases hn : p.nextState n.push.errorCount o.result with
      | queued => exact .inl rfl
      | undeliverable => exact .inr rfl
      | pushed => exact absurd hn hs
    · rw [hp]
      exact toNat_countUp _

theorem Bounded.settled (h : n.Bounded p) (hq : n.push.state = .queued) (o : Outcome)
    (now : Instant) : (n.settled o p now).Bounded p := by
  have hc := UInt32.le_iff_toNat_le.1 (h.2 hq)
  cases ho : o.isSuccess with
  | true =>
    have hp := push_settled_of_success ho n p now
    exact ⟨by rw [hp]; exact h.1, by rw [hp]; simp⟩
  | false =>
    obtain ⟨date, message, hp⟩ := push_settled_of_failure ho n p now
    have hu := toNat_countUp n.push.errorCount
    refine ⟨?_, ?_⟩
    · rw [hp]
      show (countUp n.push.errorCount).toNat ≤ _
      omega
    · rw [hp]
      exact RetryPolicy.countUp_le_of_queued

theorem bounded_queuedAt (h : n.push = .queuedAt now) (p : RetryPolicy) : n.Bounded p := by
  simp [Bounded, h, PushStatus.queuedAt, UInt32.le_iff_toNat_le]

end Notification

namespace Hall

/-- An operation on notifications from its beginning to its end, or a change around them. -/
inductive Event (S σ : Type) where
  | enqueue (n : Notification)
  | confirm (n : Notification) (key : String)
  | dispatchNow (n : Notification)
  | processQueued (n : Notification)
  | processNext
  | clock (now : Instant)
  | setPreferences (p : Preferences)
  | removePreferences (user : String)
  /-- Channels, listeners and the source of contents are exchanged. -/
  | equip (channels : Roster σ) (produce : Producer)
    (listeners : Registry Mark (Listener ChannelFailure σ))
      (service : Service S σ (σ × Bell))

inductive Answer where
  | notification (r : Except Fault Notification)
  | processing (r : Except Fault Processing)
  | next (r : Except Fault (Option Processing))
  | none

variable {S σ : Type} [Store S]

def happen (h : Hall S σ) : Event S σ → Answer × Hall S σ
  | .enqueue n =>
    let (r, store, outside, bell) :=
      h.service.enqueue n h.now h.world.store (h.world.outside, h.bell)
    (.notification r, { h with world := ⟨store, outside⟩, bell })
  | .confirm n key =>
    let (r, store, outside, bell) :=
      h.service.confirm n key h.now h.world.store (h.world.outside, h.bell)
    (.notification r, { h with world := ⟨store, outside⟩, bell })
  | .dispatchNow n =>
    let (r, world) := h.dispatcher.dispatchNow n h.now h.world
    (.notification r, { h with world })
  | .processQueued n =>
    let (r, world) := h.dispatcher.processQueued n h.now h.world
    (.processing r, { h with world })
  | .processNext =>
    let (r, world) := h.dispatcher.processNext h.now h.world
    (.next r, { h with world })
  | .clock now => (.none, { h with now })
  | .setPreferences p => (.none, (h.onStore (Service.setPreferences p)).2)
  | .removePreferences user => (.none, (h.onStore (Store.removePreferences user)).2)
  | .equip channels produce listeners service =>
    (.none, { h with dispatcher := { h.dispatcher with channels, produce, listeners }, service })

def run (h : Hall S σ) (es : List (Event S σ)) : Hall S σ := es.foldl (fun h e => (h.happen e).2) h

def record? (h : Hall MemoryStore σ) (id : Int) : Option Notification := h.world.store.find? id

@[simp] theorem config_happen (h : Hall S σ) (e : Event S σ) :
    (h.happen e).2.dispatcher.config = h.dispatcher.config := by
  cases e <;> rfl

variable {h : Hall MemoryStore σ} {id : Int} {n r : Notification}

theorem keep_eq (n : Notification) (now : Instant) (s : MemoryStore) : Service.keep n now s =
    match n.id with
    | some id => (.error (.invalid (.alreadyStored id)), s)
    | none => (.ok { n.requeued now with id := some s.nextId }, s.append (n.requeued now)) := rfl

theorem store_enqueue (sv : Service MemoryStore σ (σ × Bell)) (n : Notification) (now : Instant)
    (s : MemoryStore) (t : σ × Bell) :
    ((sv.enqueue n now s t).1, (sv.enqueue n now s t).2.1) = Service.keep n now s := by
  unfold Service.enqueue
  split <;> next h => simp [h]

theorem store_happen_enqueue (h : Hall MemoryStore σ) (n : Notification) :
    (h.happen (.enqueue n)).1 = .notification (Service.keep n h.now h.world.store).1 ∧
      (h.happen (.enqueue n)).2.world.store = (Service.keep n h.now h.world.store).2 := by
  have he := store_enqueue h.service n h.now h.world.store (h.world.outside, h.bell)
  exact ⟨congrArg (Answer.notification ∘ Prod.fst) he, congrArg Prod.snd he⟩

theorem happen_confirm (h : Hall S σ) (n : Notification) (key : String) :
    h.happen (.confirm n key) = h.happen (.enqueue (Service.confirmed n key h.now)) := rfl

theorem change_keep (n : Notification) (now : Instant) (s : MemoryStore) (p : RetryPolicy) :
    s.Change p (Service.keep n now s).2 := by
  rw [keep_eq]
  split
  · exact .refl p s
  · exact .added _

theorem change_happen (h : Hall MemoryStore σ) (e : Event MemoryStore σ) :
    h.world.store.Change h.dispatcher.config.retry (h.happen e).2.world.store := by
  cases e with
  | enqueue n =>
    rw [(store_happen_enqueue h n).2]
    exact change_keep ..
  | confirm n key =>
    rw [happen_confirm, (store_happen_enqueue h _).2]
    exact change_keep ..
  | dispatchNow n => exact h.dispatcher.change_perform (Errand.careful_dispatch n) ..
  | processQueued n =>
    simp only [happen, Dispatcher.processQueued, Errand.process]
    cases hid : n.id with
    | none => exact .refl ..
    | some id => exact h.dispatcher.change_perform (Errand.careful_queued id) ..
  | processNext =>
    simp only [happen, Dispatcher.processNext, Store.getNext]
    cases hn : h.world.store.next? h.now with
    | none => exact .refl ..
    | some n =>
      simp only [Dispatcher.processQueued, Errand.process]
      cases hid : n.id with
      | none => exact .refl ..
      | some id => exact h.dispatcher.change_perform (Errand.careful_queued id) ..
  | setPreferences p =>
    simp only [happen, onStore, Service.setPreferences]
    split
    · exact .refl ..
    · exact .kept _
  | removePreferences user => exact .kept _
  | clock | equip => exact .refl ..

variable {d : Dispatcher σ} {now : Instant} {w : World MemoryStore σ}

theorem found_perform_queued (d : Dispatcher σ) (now : Instant)
    (hf : w.store.find? id = some r) (i : Int) :
    ∃ m, (d.perform (.queued i) now w).2.store.find? id = some m := by
  by_cases hi : i = id
  · subst hi
    rcases d.perform_cases (.queued i) now w with ⟨a, _, hp⟩ | ⟨n, hs, _, hp⟩
    · exact ⟨r, by rw [hp]; exact hf⟩
    · obtain ⟨hn, hd⟩ := Errand.start_queued_eq_inr.1 hs
      rw [hp, Errand.finish_queued hn (Notification.queued_of_isDue hd)]
      exact ⟨_, MemoryStore.find?_replace_self hn Notification.id_settled⟩
  · have hk : (Errand.queued i : Errand MemoryStore _).key ≠ some id :=
      fun h => hi (Option.some.inj h)
    exact ⟨r, d.find?_perform_of_ne (Errand.careful_queued i) now hk hf⟩

theorem found_processQueued (d : Dispatcher σ) (now : Instant) (hf : w.store.find? id = some r)
    (n : Notification) : ∃ m, (d.processQueued n now w).2.store.find? id = some m := by
  simp only [Dispatcher.processQueued, Errand.process]
  cases n.id with
  | none => exact ⟨r, hf⟩
  | some i => exact found_perform_queued d now hf i

theorem found_processNext (d : Dispatcher σ) (now : Instant) (hf : w.store.find? id = some r) :
    ∃ m, (d.processNext now w).2.store.find? id = some m := by
  simp only [Dispatcher.processNext, Store.getNext]
  cases w.store.next? now with
  | none => exact ⟨r, hf⟩
  | some n => exact found_processQueued d now hf n

theorem failed_of_dropped (d : Dispatcher σ) (now : Instant) (hf : w.store.find? id = some r)
    (hn : (d.dispatchNow n now w).2.store.find? id = none) :
    n.id = some id ∧ ∃ f, (d.dispatchNow n now w).1 = .error f := by
  have hk : (Errand.dispatch n : Errand MemoryStore _).key = some id := by
    refine Classical.not_not.1 fun hk => ?_
    rw [Dispatcher.dispatchNow, d.find?_perform_of_ne (Errand.careful_dispatch n) now hk hf] at hn
    cases hn
  cases hid : n.id with
  | none => simp [Errand.dispatch, hid, Errand.fresh] at hk
  | some i =>
    have hi : i = id := by simpa [Errand.dispatch, hid, Errand.stored] using hk
    subst hi
    refine ⟨rfl, ?_⟩
    rw [d.dispatchNow_of_some hid] at hn ⊢
    rcases d.perform_cases (.stored i) now w with ⟨a, _, hp⟩ | ⟨m, hs, hp₁, hp₂⟩
    · rw [hp, hf] at hn
      cases hn
    · obtain ⟨hm, hq⟩ := Errand.start_stored_eq_inr.1 hs
      rw [Errand.finish_stored hm hq] at hp₁ hp₂
      rw [hp₂] at hn
      split at hn
      · rw [MemoryStore.find?_replace_self hm Notification.id_settled] at hn
        cases hn
      · next ho => exact ⟨_, by rw [hp₁, if_neg ho]⟩

theorem found_of_dispatched {m : Notification} (h : (d.dispatchNow n now w).1 = .ok m) :
    ∃ i, m.id = some i ∧ (d.dispatchNow n now w).2.store.find? i = some m := by
  cases hid : n.id with
  | none =>
    rw [d.dispatchNow_of_none hid] at h ⊢
    rcases d.perform_cases (.fresh n) now w with ⟨a, hs, hp⟩ | ⟨k, hs, hp₁, hp₂⟩
    · rw [hp] at h
      subst h
      simp only [Errand.fresh] at hs
      split at hs <;> cases hs
    · obtain ⟨rfl, hq⟩ := Errand.start_fresh_eq_inr.1 hs
      rw [Errand.finish_fresh hq] at hp₁ hp₂
      rw [hp₁] at h
      rw [hp₂]
      split at h
      · next ho =>
        cases h
        exact ⟨_, rfl, by rw [if_pos ho, MemoryStore.find?_append, if_pos rfl]⟩
      · cases h
  | some i =>
    rw [d.dispatchNow_of_some hid] at h ⊢
    rcases d.perform_cases (.stored i) now w with ⟨a, hs, hp⟩ | ⟨k, hs, hp₁, hp₂⟩
    · rw [hp] at h ⊢
      subst h
      have hm := Errand.found_of_stored hs
      exact ⟨i, MemoryStore.id_of_find? hm, hm⟩
    · obtain ⟨hm, hq⟩ := Errand.start_stored_eq_inr.1 hs
      rw [Errand.finish_stored hm hq] at hp₁ hp₂
      rw [hp₁] at h
      rw [hp₂]
      split at h
      · next ho =>
        cases h
        refine ⟨i, Notification.id_settled.trans (MemoryStore.id_of_find? hm), ?_⟩
        rw [if_pos ho, MemoryStore.find?_replace_self hm Notification.id_settled]
      · cases h

theorem found_happen_enqueue (h : Hall MemoryStore σ) (n : Notification)
    (hf : h.record? id = some r) : (h.happen (.enqueue n)).2.record? id = some r := by
  rw [record?, (store_happen_enqueue h n).2, keep_eq]
  split
  · exact hf
  · exact MemoryStore.find?_append_of_some hf _

theorem failed_of_record?_none {e : Event MemoryStore σ} (hf : h.record? id = some r)
    (hn : (h.happen e).2.record? id = none) :
    ∃ n f, e = .dispatchNow n ∧ n.id = some id ∧ (h.happen e).1 = .notification (.error f) := by
  cases e with
  | enqueue n =>
    rw [found_happen_enqueue h n hf] at hn
    cases hn
  | confirm n key =>
    rw [happen_confirm, found_happen_enqueue h _ hf] at hn
    cases hn
  | dispatchNow n =>
    obtain ⟨hid, f, ha⟩ := failed_of_dropped h.dispatcher h.now hf hn
    exact ⟨n, f, rfl, hid, congrArg Answer.notification ha⟩
  | processQueued n =>
    obtain ⟨m, hm⟩ := found_processQueued h.dispatcher h.now hf n
    exact absurd (hm.symm.trans hn) (by simp)
  | processNext =>
    obtain ⟨m, hm⟩ := found_processNext h.dispatcher h.now hf
    exact absurd (hm.symm.trans hn) (by simp)
  | setPreferences p =>
    simp only [happen, onStore, Service.setPreferences] at hn
    split at hn <;> exact absurd (hf.symm.trans hn) (by simp)
  | removePreferences user => exact absurd (hf.symm.trans hn) (by simp)
  | clock | equip => exact absurd (hf.symm.trans hn) (by simp)

theorem record?_of_enqueued {m : Notification}
    (ha : (h.happen (.enqueue n)).1 = .notification (.ok m)) :
    ∃ i, m.id = some i ∧ (h.happen (.enqueue n)).2.record? i = some m ∧
      m.push = .queuedAt h.now := by
  obtain ⟨ha', hs⟩ := store_happen_enqueue h n
  rw [ha'] at ha
  have hk := Answer.notification.inj ha
  simp only [record?, hs]
  rw [keep_eq] at hk ⊢
  split at hk
  · cases hk
  · cases hk
    exact ⟨_, rfl, by simp, rfl⟩

theorem record?_of_answer {e : Event MemoryStore σ} {m : Notification}
    (ha : (h.happen e).1 = .notification (.ok m)) :
    ∃ i, m.id = some i ∧ (h.happen e).2.record? i = some m := by
  cases e with
  | enqueue n =>
    obtain ⟨i, hi, hr, _⟩ := record?_of_enqueued ha
    exact ⟨i, hi, hr⟩
  | confirm n key =>
    rw [happen_confirm] at ha ⊢
    obtain ⟨i, hi, hr, _⟩ := record?_of_enqueued ha
    exact ⟨i, hi, hr⟩
  | dispatchNow n => exact found_of_dispatched (Answer.notification.inj ha)
  | processQueued | processNext | setPreferences | removePreferences | clock | equip => cases ha

theorem record?_run_of_terminal (hf : h.record? id = some r) (ht : r.push.state.isTerminal = true)
    (es : List (Event MemoryStore σ)) : (h.run es).record? id = some r := by
  induction es generalizing h with
  | nil => exact hf
  | cons e es ih => exact ih ((h.change_happen e).find?_of_terminal hf ht)

theorem lastId_run_le (h : Hall MemoryStore σ) (es : List (Event MemoryStore σ)) :
    h.world.store.lastId ≤ (h.run es).world.store.lastId := by
  induction es generalizing h with
  | nil => exact Nat.le_refl _
  | cons e es ih => exact Nat.le_trans (h.change_happen e).lastId_le (ih _)

/-- A number that was given once and is free now is never given again. -/
theorem record?_run_of_none (hn : h.record? id = none) (hl : id ≤ h.world.store.lastId)
    (es : List (Event MemoryStore σ)) : (h.run es).record? id = none := by
  induction es generalizing h with
  | nil => exact hn
  | cons e es ih =>
    have hc := h.change_happen e
    exact ih (hc.find?_of_none hn hl) (Int.le_trans hl (Int.ofNat_le.2 hc.lastId_le))

/-- What a record has and the end of an attempt leaves it, it has after every run. -/
theorem record_run {P : Notification → Prop} (hl : id ≤ h.world.store.lastId)
    (hp : ∀ n o now, n.push.state = .queued → P n → P (n.settled o h.dispatcher.config.retry now))
    (hb : ∀ r, h.record? id = some r → P r) (es : List (Event MemoryStore σ)) :
    ∀ r, (h.run es).record? id = some r → P r := by
  induction es generalizing h with
  | nil => exact hb
  | cons e es ih =>
    have hc := h.change_happen e
    refine ih (h := (h.happen e).2) (Int.le_trans hl (Int.ofNat_le.2 hc.lastId_le))
      ?_ fun r hr => ?_
    · rw [config_happen]
      exact hp
    · cases hf : h.record? id with
      | none =>
        rw [record?, hc.find?_of_none hf hl] at hr
        cases hr
      | some n =>
        rcases hc.find?_of_found hf with hk | ⟨hq, hk | ⟨o, now, hk⟩⟩
        · rw [record?, hk] at hr
          cases hr
          exact hb _ hf
        · rw [record?, hk] at hr
          cases hr
        · rw [record?, hk] at hr
          cases hr
          exact hp n o now hq (hb n hf)

theorem bounded_run (hl : id ≤ h.world.store.lastId)
    (hb : ∀ r, h.record? id = some r → r.Bounded h.dispatcher.config.retry)
    (es : List (Event MemoryStore σ)) :
    ∀ r, (h.run es).record? id = some r → r.Bounded h.dispatcher.config.retry :=
  record_run hl (fun _ o now hq hr => hr.settled hq o now) hb es

/-- A record in a final state stays as it is; a queued one is delivered, fails once more or is taken
out by a delivery that fails; a number that is out never comes back; and of what was enqueued no
record fails more often than the policy bears. -/
theorem lifecycle (h : Hall MemoryStore σ) (id : Int) :
    (∀ r es, h.record? id = some r → r.push.state.isTerminal = true →
      (h.run es).record? id = some r) ∧
    (∀ r e, h.record? id = some r → r.push.state = .queued →
      (h.happen e).2.record? id = some r ∨
      (∃ m, (h.happen e).2.record? id = some m ∧ (r.Delivered m ∨ r.Failed m)) ∨
      (h.happen e).2.record? id = none ∧
        ∃ n f, e = .dispatchNow n ∧ n.id = some id ∧ (h.happen e).1 = .notification (.error f)) ∧
    (∀ r es, h.record? id = some r → (h.run es).record? id = none → ∀ later e,
      ((h.run es).run later).record? id = none ∧
      ∀ n, (((h.run es).run later).happen e).1 = .notification (.ok n) → n.id ≠ some id) ∧
    (∀ n m e, (e = .enqueue n ∨ ∃ key, e = .confirm n key) →
      (h.happen e).1 = .notification (.ok m) → m.id = some id →
      ∀ es r, ((h.happen e).2.run es).record? id = some r →
        r.Bounded h.dispatcher.config.retry) := by
  refine ⟨fun r es hf ht => record?_run_of_terminal hf ht es, fun r e hf hq => ?_,
    fun r es hf hn later e => ?_, fun n m e he ha hid es => ?_⟩
  · rcases (h.change_happen e).find?_of_found hf with hk | ⟨_, hk | ⟨o, now, hk⟩⟩
    · exact .inl hk
    · exact .inr (.inr ⟨hk, failed_of_record?_none hf hk⟩)
    · exact .inr (.inl ⟨_, hk, Notification.delivered_or_failed_settled⟩)
  · have hl : id ≤ (h.run es).world.store.lastId :=
      Int.le_trans (MemoryStore.le_lastId_of_find? hf) (Int.ofNat_le.2 (h.lastId_run_le es))
    have hlater : ((h.run es).run later).record? id = none := record?_run_of_none hn hl later
    refine ⟨hlater, fun n ha hid => ?_⟩
    obtain ⟨i, hi, hm⟩ := record?_of_answer ha
    have hii : i = id := Option.some.inj (hi.symm.trans hid)
    subst hii
    have hnone := record?_run_of_none hn hl (later ++ [e])
    rw [run, List.foldl_append] at hnone
    exact absurd (hm.symm.trans hnone) (by simp)
  · have hs : (h.happen e).2.record? id = some m ∧ m.push = .queuedAt h.now := by
      rcases he with rfl | ⟨key, rfl⟩
      · obtain ⟨i, hi, hm⟩ := record?_of_enqueued ha
        exact Option.some.inj (hi.symm.trans hid) ▸ hm
      · rw [happen_confirm] at ha ⊢
        obtain ⟨i, hi, hm⟩ := record?_of_enqueued ha
        exact Option.some.inj (hi.symm.trans hid) ▸ hm
    have hb := bounded_run (h := (h.happen e).2) (MemoryStore.le_lastId_of_find? hs.1)
      (fun r hr => by
        rw [hs.1] at hr
        cases hr
        exact Notification.bounded_queuedAt hs.2 _) es
    rw [config_happen] at hb
    exact hb

theorem lifecycle_of_two :
    let post : PushChannel Unit := .immediate "post" (fun _ => true) (fun _ => true) (some {})
      fun n _ _ => (if n.user = "ann" then .ok () else .error (.rejected "no"), ())
    let d : Dispatcher Unit :=
      ⟨Roster.enlist .empty post, fun _ _ _ => .ok ⟨⟨.text, "", ""⟩, .empty⟩, .empty, {}⟩
    let h : Hall MemoryStore Unit := .create .epoch ⟨.empty, ()⟩ d (.empty .empty) 1
    let forAnn : Notification := .create "ann" "news" .epoch
    let forBob : Notification := .create "bob" "news" .epoch
    let h₂ := h.run [.setPreferences { user := "ann" }, .setPreferences { user := "bob" },
      .enqueue forAnn, .enqueue forBob]
    let r : Notification := { forAnn with id := some 1 }
    let r' : Notification := { r with push := ⟨.pushed, .epoch, 0, none⟩ }
    let bob : Notification := { forBob with id := some 2 }
    (h₂.record? 1 = some r ∧ r.Delivered r') ∧
    ((h₂.run [.processNext]).record? 1 = some r' ∧
      ((h₂.run [.processNext]).run [.dispatchNow bob, .processNext]).record? 1 = some r') ∧
    (h₂.record? 2 = some bob ∧ (h₂.run [.dispatchNow bob]).record? 2 = none ∧
      ((h₂.run [.dispatchNow bob]).run [.enqueue forBob]).record? 2 = none) := by
  intro post d h forAnn forBob h₂ r r' bob
  have hr : h₂.record? 1 = some r := by decide +kernel
  have hr' : (h₂.run [.processNext]).record? 1 = some r' := by decide +kernel
  have hbob : h₂.record? 2 = some bob := by decide +kernel
  have hgone : (h₂.run [.dispatchNow bob]).record? 2 = none := by decide +kernel
  refine ⟨⟨hr, rfl, rfl, rfl, rfl⟩, ⟨hr', ?_⟩, hbob, hgone, ?_⟩
  · exact (lifecycle (h₂.run [.processNext]) 1).1 r' _ hr' rfl
  · exact ((lifecycle h₂ 2).2.2.1 bob _ hbob hgone [.enqueue forBob] .processNext).1

end Hall

end Herald
