import Herald.Proofs.Notification.Lifecycle
/-!
What deliveries touch: one record at a time, and of that only how far its telling has come.
Preferences stay as they are, also when a notification is forced on a user who has none.
-/

set_option autoImplicit false

namespace Herald

namespace Errand.Ending

variable {p : RetryPolicy} {now : Instant} {n : Notification} {o : Outcome} {s t : MemoryStore}
  {key : Option Int} {id : Int}

theorem preferences_eq (h : Ending p now n o s key t) : t.preferences = s.preferences := by
  cases h <;> rfl

theorem find?_eq (h : Ending p now n o s key t) (hid : id ≠ key.getD s.nextId) :
    t.find? id = s.find? id := by
  cases h with
  | settled other => exact (MemoryStore.find?_replace ..).trans (if_neg hid)
  | dropped other => exact (MemoryStore.find?_erase ..).trans (if_neg hid)
  | added => exact (MemoryStore.find?_append ..).trans (if_neg hid)
  | refused => rfl

end Errand.Ending

namespace Dispatcher

variable {σ α : Type} {e : Errand MemoryStore α} {w : World MemoryStore σ} {id : Int}

theorem preferences_perform (d : Dispatcher σ) (h : e.Careful) (now : Instant)
    (w : World MemoryStore σ) : (d.perform e now w).2.store.preferences = w.store.preferences := by
  rcases d.perform_cases e now w with ⟨a, _, hp⟩ | ⟨n, hs, _⟩
  · rw [hp]
  · exact (d.ending_perform h hs).preferences_eq

theorem find?_perform (d : Dispatcher σ) (h : e.Careful) (now : Instant)
    (hid : id ≠ e.key.getD w.store.nextId) :
    (d.perform e now w).2.store.find? id = w.store.find? id := by
  rcases d.perform_cases e now w with ⟨a, _, hp⟩ | ⟨n, hs, _⟩
  · rw [hp]
  · exact (d.ending_perform h hs).find?_eq hid

theorem find?_perform_of_none (d : Dispatcher σ) (h : e.Careful) (now : Instant) {i : Int}
    (hk : e.key = some i) (hn : w.store.find? id = none) :
    (d.perform e now w).2.store.find? id = none := by
  rcases d.perform_cases e now w with ⟨a, _, hp⟩ | ⟨n, hs, _⟩
  · rw [hp]
    exact hn
  · have hne : id ≠ e.key.getD w.store.nextId := by
      rw [hk, Option.getD_some]
      rintro rfl
      rw [h.found now w.store n id hs hk] at hn
      cases hn
    exact (d.find?_perform h now hne).trans hn

theorem given_of_dispatchNow (d : Dispatcher σ) (now : Instant) {n r : Notification}
    (unsaved : n.id = none)
    (hn : w.store.find? id = none) (hr : (d.dispatchNow n now w).2.store.find? id = some r) :
    r = { n with id := some id, push := r.push } ∧ r.push.state = .pushed := by
  rw [d.dispatchNow_of_none unsaved] at hr
  rcases d.perform_cases (.fresh n) now w with ⟨a, _, hp⟩ | ⟨m, hs, _, hp⟩
  · rw [hp, hn] at hr
    cases hr
  · obtain ⟨rfl, queued⟩ := Errand.start_fresh_eq_inr.1 hs
    rw [hp, Errand.finish_fresh queued] at hr
    split at hr
    · next success =>
      rw [MemoryStore.find?_append] at hr
      split at hr
      · next hid =>
        cases hr
        have hpush := Notification.push_settled_of_success success m d.config.retry now
        exact ⟨by rw [hid]; rfl, congrArg PushStatus.state hpush⟩
      · rw [hn] at hr
        cases hr
    · rw [hn] at hr
      cases hr

end Dispatcher

namespace Hall

variable {S σ : Type}

/-- Delivers, or changes nothing in the store. -/
def Event.isDelivery : Event S σ → Bool
  | .dispatchNow _ | .processQueued _ | .processNext | .clock _ | .equip .. => true
  | .enqueue _ | .confirm .. | .setPreferences _ | .removePreferences _ => false

/-- The number of the record that a delivery is about: the one that is named, the one that comes
next, or the one that would come of a notification without a number. -/
def subject? (h : Hall MemoryStore σ) : Event MemoryStore σ → Option Int
  | .dispatchNow n => some (n.id.getD h.world.store.nextId)
  | .processQueued n => n.id
  | .processNext => (h.world.store.next? h.now).bind (·.id)
  | _ => none

variable {h : Hall MemoryStore σ} {e : Event MemoryStore σ} {id : Int} {r : Notification}

theorem store_of_delivery (he : e.isDelivery = true) :
    (h.happen e).2.world.store = h.world.store ∨
    ∃ (α : Type) (errand : Errand MemoryStore α), errand.Careful ∧
      h.subject? e = some (errand.key.getD h.world.store.nextId) ∧
      (errand.key = none → ∃ n, e = .dispatchNow n ∧ n.id = none) ∧
      (h.happen e).2.world.store = (h.dispatcher.perform errand h.now h.world).2.store := by
  cases e with
  | dispatchNow n =>
    refine .inr ⟨_, .dispatch n, Errand.careful_dispatch n, ?_, fun hk => ⟨n, rfl, ?_⟩, rfl⟩
    · cases hid : n.id <;> simp [subject?, Errand.dispatch, Errand.fresh, Errand.stored, hid]
    · cases hid : n.id with
      | none => rfl
      | some i => simp [Errand.dispatch, Errand.stored, hid] at hk
  | processQueued n =>
    simp only [happen, Dispatcher.processQueued, Errand.process, subject?]
    cases n.id with
    | none => exact .inl rfl
    | some i =>
      exact .inr ⟨_, .queued i, Errand.careful_queued i, rfl,
        fun hk => absurd hk (Option.some_ne_none i), rfl⟩
  | processNext =>
    simp only [happen, Dispatcher.processNext, Store.getNext, subject?]
    cases h.world.store.next? h.now with
    | none => exact .inl rfl
    | some n =>
      simp only [Dispatcher.processQueued, Errand.process, Option.bind_some]
      cases n.id with
      | none => exact .inl rfl
      | some i =>
        exact .inr ⟨_, .queued i, Errand.careful_queued i, rfl,
          fun hk => absurd hk (Option.some_ne_none i), rfl⟩
  | clock | equip => exact .inl rfl
  | enqueue | confirm | setPreferences | removePreferences => cases he

theorem preferences_of_delivery (he : e.isDelivery = true) :
    (h.happen e).2.world.store.preferences = h.world.store.preferences := by
  rcases store_of_delivery he with hs | ⟨α, errand, hc, _, _, hs⟩
  · rw [hs]
  · rw [hs]
    exact h.dispatcher.preferences_perform hc h.now h.world

theorem record?_of_delivery (he : e.isDelivery = true) (hid : h.subject? e ≠ some id) :
    (h.happen e).2.record? id = h.record? id := by
  rcases store_of_delivery he with hs | ⟨α, errand, hc, hsub, _, hs⟩
  · rw [record?, hs]
    rfl
  · have hne : id ≠ errand.key.getD h.world.store.nextId := fun hi => hid (hi ▸ hsub)
    rw [record?, hs]
    exact h.dispatcher.find?_perform hc h.now hne

theorem given_of_delivery (he : e.isDelivery = true) (hn : h.record? id = none)
    (hr : (h.happen e).2.record? id = some r) :
    ∃ n, e = .dispatchNow n ∧ n.id = none ∧ r = { n with id := some id, push := r.push } ∧
      r.push.state = .pushed := by
  rcases store_of_delivery (h := h) he with hs | ⟨α, errand, hc, _, hnone, hs⟩
  · rw [record?, hs] at hr
    exact absurd (hn.symm.trans hr) (by simp)
  · cases hk : errand.key with
    | some i =>
      rw [record?, hs, h.dispatcher.find?_perform_of_none hc h.now hk hn] at hr
      cases hr
    | none =>
      obtain ⟨n, rfl, unsaved⟩ := hnone hk
      exact ⟨n, rfl, unsaved, h.dispatcher.given_of_dispatchNow h.now unsaved hn hr⟩

theorem preferences_run {es : List (Event MemoryStore σ)} (hes : ∀ e ∈ es, e.isDelivery = true) :
    (h.run es).world.store.preferences = h.world.store.preferences := by
  induction es generalizing h with
  | nil => rfl
  | cons e es ih =>
    exact (ih fun d hd => hes d (List.mem_cons_of_mem _ hd)).trans
      (preferences_of_delivery (hes e List.mem_cons_self))

theorem given_run (hf : h.record? id = some r) (es : List (Event MemoryStore σ)) :
    ∀ m, (h.run es).record? id = some m → m = { r with push := m.push } := by
  refine record_run (MemoryStore.le_lastId_of_find? hf) (fun n o now _ hn => ?_) (fun m hm => ?_) es
  · rw [hn]
    rfl
  · rw [hf] at hm
    cases hm
    rfl

/-- A delivery leaves all records alone but its subject, and adds none but a notification without a
number, as it was given and pushed. After a run of deliveries the preferences are those of before,
and records that are still there have changed in how far their telling has come, if at all. -/
theorem touches_only_push (h : Hall MemoryStore σ) :
    (∀ e id, e.isDelivery = true → h.subject? e ≠ some id →
      (h.happen e).2.record? id = h.record? id) ∧
    (∀ e id r, e.isDelivery = true → h.record? id = none → (h.happen e).2.record? id = some r →
      ∃ n, e = .dispatchNow n ∧ n.id = none ∧ r = { n with id := some id, push := r.push } ∧
        r.push.state = .pushed) ∧
    ∀ es, (∀ e ∈ es, e.isDelivery = true) →
      (h.run es).world.store.preferences = h.world.store.preferences ∧
      ∀ id r m, h.record? id = some r → (h.run es).record? id = some m →
        m = { r with push := m.push } :=
  ⟨fun _ _ he hid => record?_of_delivery he hid, fun _ _ _ he hn hr => given_of_delivery he hn hr,
    fun es hes => ⟨preferences_run hes, fun _ _ m hf hm => given_run hf es m hm⟩⟩

theorem touches_only_push_of_three :
    let post : PushChannel Unit := .immediate "post" (fun _ => true) (fun _ => true) (some {})
      fun n _ _ => (if n.user = "bob" then .error (.transient "later") else .ok (), ())
    let d : Dispatcher Unit :=
      ⟨Roster.enlist .empty post, fun _ _ _ => .ok ⟨⟨.text, "", ""⟩, .empty⟩, .empty, {}⟩
    let h : Hall MemoryStore Unit := .create .epoch ⟨.empty, ()⟩ d (.empty .empty) 1
    let forAnn : Notification := .create "ann" "news" .epoch
    let forBob : Notification := .create "bob" "bill" .epoch
    let forEve : Notification := (Notification.create "eve" "call" .epoch).force "post"
    let h₂ := h.run [.setPreferences { user := "ann" }, .setPreferences { user := "bob" },
      .enqueue forAnn, .enqueue forBob]
    let es : List (Hall.Event MemoryStore Unit) :=
      [.dispatchNow { forEve with id := some 1 }, .processNext, .dispatchNow forEve]
    (∀ e ∈ es, e.isDelivery = true) ∧
      (h₂.run es).world.store.preferences = h₂.world.store.preferences ∧
    (h₂.subject? (.dispatchNow { forEve with id := some 1 }) = some 1 ∧
      (h₂.happen (.dispatchNow { forEve with id := some 1 })).2.record? 2 = h₂.record? 2) ∧
    (∃ r m, h₂.record? 2 = some r ∧ (h₂.run es).record? 2 = some m ∧ m = { r with push := m.push } ∧
      m.push.errorCount = 1) ∧
    ∃ r, (h₂.run es).record? 3 = some r ∧ r = { forEve with id := some 3, push := r.push } ∧
      r.push.state = .pushed := by
  intro post d h forAnn forBob forEve h₂ es
  have hes : ∀ e ∈ es, e.isDelivery = true := by
    intro e he
    simp only [es, List.mem_cons, List.not_mem_nil, or_false] at he
    rcases he with rfl | rfl | rfl <;> rfl
  obtain ⟨hothers, _, hrun⟩ := touches_only_push h₂
  obtain ⟨hprefs, hfields⟩ := hrun es hes
  have hsub : h₂.subject? (.dispatchNow { forEve with id := some 1 }) = some 1 := rfl
  have hbob : h₂.record? 2 = some { forBob with id := some 2 } := by decide +kernel
  have hafter : ((h₂.run es).record? 2).map (·.push.errorCount) = some 1 := by decide +kernel
  obtain ⟨m, hm, hcount⟩ := Option.map_eq_some_iff.1 hafter
  have hnone : (h₂.run (es.take 2)).record? 3 = none := by decide +kernel
  have hsome : ((h₂.run es).record? 3).isSome = true := by decide +kernel
  obtain ⟨r, hr⟩ := Option.isSome_iff_exists.1 hsome
  obtain ⟨n, hn, _, hgiven, hpushed⟩ :=
    (touches_only_push (h₂.run (es.take 2))).2.1 (.dispatchNow forEve) 3 r rfl hnone hr
  obtain rfl : forEve = n := Event.dispatchNow.inj hn
  exact ⟨hes, hprefs, ⟨hsub, hothers _ 2 rfl (by rw [hsub]; decide)⟩,
    ⟨_, m, hbob, hm, hfields 2 _ m hbob hm, hcount⟩, r, hr, hgiven, hpushed⟩

end Hall

end Herald
