import Herald.Proofs.Delivery.Steps
/-!
Deliveries side by side, in any order of their steps, while the clock, the preferences and the world
outside change as they like and further notifications are stored: pushes of one stored notification
do not overlap, and none begins after an attempt that some channel took.
-/

set_option autoImplicit false

namespace Herald

namespace Delivery

variable {S σ α β τ : Type}

/-- A call, and what becomes of its answer. -/
inductive Call (α : Type) where
  | dispatchNow (n : Notification) (f : Except Fault Notification → α)
  | processQueued (n : Notification) (f : Except Fault Processing → α)
  | processNext (f : Except Fault (Option Processing) → α)

def ofCall [Store S] : Call α → Delivery S σ α
  | .dispatchNow n f => (dispatchNow n).map f
  | .processQueued n f => (processQueued n).map f
  | .processNext f => processNext.map f

theorem map_ofErrand (e : Errand S α) (f : α → β) :
    (ofErrand e : Delivery S σ α).map f = ofErrand (e.map f) := by
  cases hk : e.key with
  | none => simp [ofErrand, Errand.map, hk, map]
  | some id => simp [ofErrand, Errand.map, hk, map]

theorem fits_ofCall (c : Call α) (s : MemoryStore) :
    (ofCall c : Delivery MemoryStore σ α).Fits s (none : Option (Claim τ Int)) := by
  cases c with
  | dispatchNow n f =>
    simp only [ofCall, dispatchNow, map_ofErrand]
    exact fits_ofErrand ((Errand.careful_dispatch n).map f) s
  | processQueued n f =>
    simp only [ofCall, processQueued, Errand.process]
    cases n.id with
    | none => rfl
    | some id =>
      simp only [map_ofErrand]
      exact fits_ofErrand ((Errand.careful_queued id).map f) s
  | processNext f =>
    refine ⟨rfl, fun now s => ?_⟩
    simp only [Store.getNext]
    cases s.next? now with
    | none => simp
    | some n =>
      simp only [Errand.process]
      cases n.id with
      | none => simp
      | some id =>
        refine ⟨rfl, fun e he => ?_⟩
        cases he
        exact ((Errand.careful_queued id).map _).map f

def Took (id : Int) (channel : String) : Delivery S σ α → Prop
  | .attempting e a => e.key = some id ∧ channel ∈ a.report.succeeded
  | .finishing e _ o => e.key = some id ∧ o.isSuccess = true
  | _ => False

def IsPast : Delivery S σ α → Prop
  | .finishing .. | .releasing _ | .evicting _ | .done _ => True
  | _ => False

theorem Took.stake {s : MemoryStore} {c : Option (Claim τ Int)}
    {d : Delivery MemoryStore σ α} {id : Int}
    {channel : String} (h : d.Took id channel) (hd : d.Fits s c) : Stake (some id) .holding c := by
  cases d with
  | attempting e a => exact h.1 ▸ hd.2.1
  | finishing e n o => exact h.1 ▸ hd.2.1
  | _ => exact h.elim

section Steps

variable [DecidableEq τ] {disp : Dispatcher σ} {task : τ} {now : Instant} {l : KeyLock τ Int}

theorem step_attempting_inl [Store S] {w : World S σ} {e : Errand S α} {a b : Attempt σ}
    (h : (a.step w.outside).1 = .inl b) :
    ((attempting e a).step disp task now l w).1 = .attempting e b := by
  simp only [step]
  split
  · next hb =>
    rw [hb] at h
    cases h
    rfl
  · next hb =>
    rw [hb] at h
    cases h

theorem step_attempting_inr [Store S] {w : World S σ} {e : Errand S α} {a : Attempt σ} {o : Outcome}
    (h : (a.step w.outside).1 = .inr o) :
    ((attempting e a).step disp task now l w).1 = .finishing e a.notification o := by
  simp only [step]
  split
  · next hb =>
    rw [hb] at h
    cases h
  · next hb =>
    rw [hb] at h
    cases h
    rfl

theorem IsPast.step [Store S] {w : World S σ} {d : Delivery S σ α} (h : d.IsPast) :
    (d.step disp task now l w).1.IsPast := by
  cases d with
  | finishing e n o =>
    simp only [Delivery.step, leave]
    split <;> trivial
  | releasing | evicting | done => trivial
  | _ => exact h.elim

/-- What a channel has taken stays so until the record says it. -/
theorem Took.step (disp : Dispatcher σ) (now : Instant) {w : World MemoryStore σ}
    {d : Delivery MemoryStore σ α} {id : Int} {channel : String}
    (h : d.Took id channel) (hd : d.Fits w.store (l.claim? task)) :
    (d.step disp task now l w).1.Took id channel ∨
      ∃ r, (d.step disp task now l w).2.2.store.find? id = some r ∧ r.push.state = .pushed := by
  cases d with
  | attempting e a =>
    obtain ⟨hk, hm⟩ := h
    have hp := a.progress w.outside
    generalize a.sign? w.outside = sign at hp
    generalize hs : (a.step w.outside).1 = r at hp
    left
    cases hp with
    | closed =>
      rw [step_attempting_inr hs]
      have hn : a.report.succeeded ≠ [] := List.ne_nil_of_mem hm
      exact ⟨hk, by simp [Outcome.ofReport, Outcome.isSuccess, hn]⟩
    | goesOn _ _ _ report =>
      rw [step_attempting_inl hs]
      exact ⟨hk, by rw [report]; exact List.mem_append_left _ hm⟩
  | finishing e n o =>
    obtain ⟨hk, ho⟩ := h
    obtain ⟨he, _, hc⟩ := hd
    right
    have hend := he.ending disp.config.retry now n o w.store hc.1 hc.found
    rw [hk] at hend
    exact hend.pushed (hc.found id hk) ho
  | _ => exact h.elim

end Steps

end Delivery

namespace Traffic

variable {σ α : Type}

def opened (d : Dispatcher σ) (now : Instant) (w : World MemoryStore σ)
    (calls : List (Delivery.Call α)) : Traffic MemoryStore σ α :=
  ⟨d, now, .empty, w, calls.map Delivery.ofCall⟩

inductive Move (σ : Type) where
  | step (place : Nat)
  | clock (now : Instant)
  | prefer (d : Dict Preferences)
  | add (n : Notification)
  | outside (s : σ)

def move (t : Traffic MemoryStore σ α) : Move σ → Traffic MemoryStore σ α
  | .step place => t.step place
  | .clock now => { t with now }
  | .prefer d => { t with world.store := t.world.store.setPreferences d }
  | .add n => { t with world.store := t.world.store.append n }
  | .outside s => { t with world.outside := s }

def follow (t : Traffic MemoryStore σ α) (moves : List (Move σ)) : Traffic MemoryStore σ α :=
  moves.foldl move t

theorem run_eq_follow (t : Traffic MemoryStore σ α) (places : List Nat) :
    t.run places = t.follow (places.map .step) := by
  simp only [run, follow, List.foldl_map]
  rfl

/-- Whose attempt, of which notification, and what was seen of it. -/
structure Entry where
  place : Nat
  id : Option Int
  sign : Attempt.Sign
  deriving DecidableEq, Repr

def Entry.Accepts (id : Int) (channel : String) (x : Entry) : Bool :=
  x.id = some id && x.sign = .ends channel true

def seen? (t : Traffic MemoryStore σ α) : Move σ → Option Entry
  | .step place =>
    match t.deliveries[place]? with
    | some (.attempting _ a) => (a.sign? t.world.outside).map (⟨place, a.notification.id, ·⟩)
    | _ => none
  | _ => none

def history (t : Traffic MemoryStore σ α) : List (Move σ) → List Entry
  | [] => []
  | m :: ms => (t.seen? m).toList ++ (t.move m).history ms

variable {t : Traffic MemoryStore σ α} {es : List Entry} {i j : Nat} {id : Int} {channel : String}

def Kept (t : Traffic MemoryStore σ α) (place : Nat) (id : Int) (channel : String) : Prop :=
  (∃ d, t.deliveries[place]? = some d ∧ d.Took id channel) ∨
    ∃ r, t.world.store.find? id = some r ∧ r.push.state = .pushed

/-- What holds between any two moves, with what was seen so far. -/
structure Orderly (t : Traffic MemoryStore σ α) (es : List Entry) : Prop where
  ids : t.dispatcher.channels.ids.Nodup
  locks : t.locks.Sound
  fits : ∀ i (d : Delivery MemoryStore σ α), t.deliveries[i]? = some d →
    d.Fits t.world.store (t.locks.claim? i)
  kept : ∀ i id channel, ⟨i, some id, .ends channel true⟩ ∈ es → t.Kept i id channel
  past : ∀ i id, ⟨i, id, .closes⟩ ∈ es → ∀ d : Delivery MemoryStore σ α,
    t.deliveries[i]? = some d → d.IsPast
  once : ∀ id channel, es.countP (·.Accepts id channel) ≤ 1
  silent : ∀ i j id channel other, ¬ [⟨i, some id, .ends channel true⟩, ⟨i, some id, .closes⟩,
    ⟨j, some id, .begins other⟩].Sublist es

theorem orderly_opened {d : Dispatcher σ} (hd : d.channels.ids.Nodup) (now : Instant)
    (w : World MemoryStore σ) (calls : List (Delivery.Call α)) :
    (opened d now w calls).Orderly [] where
  ids := hd
  locks := KeyLock.Sound.empty
  fits i d hi := by
    simp only [opened, List.getElem?_map, Option.map_eq_some_iff] at hi
    obtain ⟨c, _, rfl⟩ := hi
    exact Delivery.fits_ofCall c _
  kept := by simp
  past := by simp
  once := by simp
  silent := by simp

namespace Orderly

/-- Of a notification that some channel took there is only the attempt in which it did. -/
theorem took_of_attempting (h : t.Orderly es) {e : Errand MemoryStore α} {a : Attempt σ}
    (hj : t.deliveries[j]? = some (.attempting e a)) (hid : a.notification.id = some id)
    (hm : ⟨i, some id, .ends channel true⟩ ∈ es) : i = j ∧ channel ∈ a.report.succeeded := by
  have hf := h.fits j _ hj
  obtain ⟨_, hs, hc, _⟩ := hf
  have hk : e.key = some id := hc.id_eq.symm.trans hid
  rcases h.kept i id channel hm with ⟨d, hi, ht⟩ | ⟨r, hr, hp⟩
  · have hij : i = j := h.locks.eq_of_stake (ht.stake (h.fits i d hi)) (hk ▸ hs)
    subst hij
    rw [hj] at hi
    cases hi
    exact ⟨rfl, ht.2⟩
  · rw [hc.found id hk] at hr
    cases hr
    rw [hc.1] at hp
    cases hp

end Orderly

theorem seen?_eq_some {x : Entry} (h : t.seen? (.step i) = some x) :
    ∃ e a sign, t.deliveries[i]? = some (.attempting e a) ∧ a.sign? t.world.outside = some sign ∧
      x = ⟨i, a.notification.id, sign⟩ := by
  simp only [seen?] at h
  split at h
  · next e a hi =>
    obtain ⟨sign, hs, hx⟩ := Option.map_eq_some_iff.1 h
    exact ⟨e, a, sign, hi, hs, hx.symm⟩
  · cases h

namespace Orderly

theorem change_step (h : t.Orderly es) (i : Nat) :
    t.world.store.Change t.dispatcher.config.retry (t.step i).world.store := by
  cases hi : t.deliveries[i]? with
  | none =>
    simp only [step, hi]
    exact .refl _ _
  | some d =>
    rw [(step_eq hi).1]
    exact Delivery.change_step (Delivery.fits_iff.1 (h.fits i d hi)).2.1

theorem find?_step (h : t.Orderly es) (hij : j ≠ i)
    (hj : Delivery.Stake (some id) .holding (t.locks.claim? j)) {r : Notification}
    (hr : t.world.store.find? id = some r) : (t.step i).world.store.find? id = some r := by
  cases hi : t.deliveries[i]? with
  | none =>
    simp only [step, hi]
    exact hr
  | some d =>
    rw [(step_eq hi).1]
    rcases Delivery.store_step t.dispatcher i t.now t.locks
      (Delivery.fits_iff.1 (h.fits i d hi)).2.1 with
      hs | ⟨e, n, o, rfl, hs⟩
    · rw [← hs] at hr
      exact hr
    · refine hs.find?_of_ne (fun hk => hij ?_) hr
      exact h.locks.eq_of_stake hj (hk ▸ (h.fits i _ hi).2.1)

theorem fits_step (h : t.Orderly es) (i : Nat) (j : Nat) (d : Delivery MemoryStore σ α)
    (hd : (t.step i).deliveries[j]? = some d) :
    d.Fits (t.step i).world.store ((t.step i).locks.claim? j) := by
  rcases delivery_step hd with ⟨hij, hd⟩ | ⟨rfl, c, hc, rfl⟩
  · rw [claim?_step_of_ne hij]
    exact (h.fits j d hd).frame fun id hk r hr => h.find?_step hij hk hr
  · rw [(step_eq hc).1]
    exact Delivery.fits_step h.locks h.ids (h.fits j c hc)

theorem held (h : t.Orderly es) : t.Held :=
  ⟨h.locks, fun i d hi => (Delivery.fits_iff.1 (h.fits i d hi)).1⟩

theorem kept_step (h : t.Orderly es) (i : Nat) (hk : t.Kept j id channel) :
    (t.step i).Kept j id channel := by
  rcases hk with ⟨d, hd, ht⟩ | ⟨r, hr, hp⟩
  · cases hi : t.deliveries[i]? with
    | none => exact .inl ⟨d, by simp only [step, hi]; exact hd, ht⟩
    | some c =>
      obtain ⟨hs, hself, hothers⟩ := step_eq hi
      by_cases hij : j = i
      · subst hij
        rw [hi] at hd
        cases hd
        rcases ht.step t.dispatcher t.now (h.fits j d hi) with ht | ⟨r, hr, hp⟩
        · exact .inl ⟨_, hself, ht⟩
        · exact .inr ⟨r, by rw [hs]; exact hr, hp⟩
      · exact .inl ⟨d, (hothers j hij).trans hd, ht⟩
  · exact .inr ⟨r, (h.change_step i).find?_of_terminal hr (by rw [hp]; rfl), hp⟩

theorem past_step {d : Delivery MemoryStore σ α} (i : Nat)
    (h : ∀ c : Delivery MemoryStore σ α, t.deliveries[j]? = some c → c.IsPast)
    (hd : (t.step i).deliveries[j]? = some d) : d.IsPast := by
  rcases delivery_step hd with ⟨_, hd⟩ | ⟨rfl, c, hc, rfl⟩
  · exact h d hd
  · exact (h c hc).step

theorem accepted_step (h : t.Orderly es)
    (hx : t.seen? (.step i) = some ⟨i, some id, .ends channel true⟩) :
    (t.step i).Kept i id channel ∧ ∀ j, ⟨j, some id, .ends channel true⟩ ∉ es := by
  obtain ⟨e, a, sign, hi, hsign, hx⟩ := seen?_eq_some hx
  obtain ⟨hid, rfl⟩ : some id = a.notification.id ∧ Attempt.Sign.ends channel true = sign := by
    simpa using hx
  obtain ⟨_, _, hc, hn⟩ := h.fits i _ hi
  have hp := a.progress t.world.outside
  rw [hsign] at hp
  generalize hr : (a.step t.world.outside).1 = r at hp
  cases hp with
  | @goesOn _ b _ _ channels report =>
    have hm : channel ∈ Attempt.Sign.taken (some (.ends channel true)) := List.mem_singleton_self _
    refine ⟨.inl ⟨_, (step_eq hi).2.1, ?_⟩, fun j hj => ?_⟩
    · rw [Delivery.step_attempting_inl hr]
      exact ⟨hc.id_eq.symm.trans hid.symm, by rw [report]; exact List.mem_append_right _ hm⟩
    · have ha := (h.took_of_attempting hi hid.symm hj).2
      have hb := hn.sublist channels
      rw [Attempt.channels, List.append_assoc, report] at hb
      exact (List.nodup_append.1 (List.nodup_append.1 hb).1).2.2 channel ha channel hm rfl

theorem closed_step {key : Option Int} (hx : t.seen? (.step i) = some ⟨i, key, .closes⟩)
    {d : Delivery MemoryStore σ α} (hd : (t.step i).deliveries[i]? = some d) : d.IsPast := by
  obtain ⟨e, a, sign, hi, hsign, hx⟩ := seen?_eq_some hx
  obtain ⟨_, rfl⟩ : key = a.notification.id ∧ Attempt.Sign.closes = sign := by simpa using hx
  have hp := a.progress t.world.outside
  rw [hsign] at hp
  generalize hr : (a.step t.world.outside).1 = r at hp
  cases hp with
  | goesOn _ shown => exact shown.elim
  | closed =>
    rw [(step_eq hi).2.1, Delivery.step_attempting_inr hr] at hd
    cases hd
    trivial

theorem begins_step (h : t.Orderly es) {other : String}
    (hx : t.seen? (.step j) = some ⟨j, some id, .begins other⟩)
    (ha : ⟨i, some id, .ends channel true⟩ ∈ es) : ⟨i, some id, .closes⟩ ∉ es := by
  intro hc
  obtain ⟨e, a, sign, hj, _, hx⟩ := seen?_eq_some hx
  have hid : a.notification.id = some id := by
    simp only [Entry.mk.injEq] at hx
    exact hx.2.1.symm
  obtain ⟨rfl, _⟩ := h.took_of_attempting hj hid ha
  exact h.past i _ hc _ hj

theorem step (h : t.Orderly es) (i : Nat) :
    (t.step i).Orderly (es ++ (t.seen? (.step i)).toList) := by
  have hplace : ∀ x, t.seen? (.step i) = some x → x.place = i := by
    intro x hx
    obtain ⟨_, a, _, _, _, rfl⟩ := seen?_eq_some hx
    rfl
  refine ⟨(dispatcher_step t i).symm ▸ h.ids, (h.held.step i).locks, h.fits_step i, ?kept,
    ?past, ?once, ?silent⟩
  case kept =>
    intro j id channel hm
    rcases List.mem_append.1 hm with hm | hm
    · exact h.kept_step i (h.kept j id channel hm)
    · have hx := Option.mem_toList.1 hm
      obtain rfl : j = i := hplace _ hx
      exact (h.accepted_step hx).1
  case past =>
    intro j key hm d hd
    rcases List.mem_append.1 hm with hm | hm
    · exact past_step i (h.past j key hm) hd
    · have hx := Option.mem_toList.1 hm
      obtain rfl : j = i := hplace _ hx
      exact closed_step hx hd
  case once =>
    intro id channel
    have ho := h.once id channel
    cases hx : t.seen? (.step i) with
    | none => simpa using ho
    | some x =>
      cases hacc : x.Accepts id channel with
      | false => simpa [hacc] using ho
      | true =>
        obtain ⟨hid, hsign⟩ : x.id = some id ∧ x.sign = .ends channel true := by
          simpa [Entry.Accepts] using hacc
        have hxe : x = ⟨i, some id, .ends channel true⟩ := by
          rw [← hid, ← hsign, ← hplace x hx]
        rw [hxe] at hx
        -- a channel takes only what no attempt has seen it take before
        have hzero : es.countP (·.Accepts id channel) = 0 := by
          refine List.countP_eq_zero.2 fun y hy hya => ?_
          obtain ⟨hyid, hysign⟩ : y.id = some id ∧ y.sign = .ends channel true := by
            simpa [Entry.Accepts] using hya
          refine (h.accepted_step hx).2 y.place ?_
          rw [← hyid, ← hysign]
          exact hy
        simp [hzero, hacc]
  case silent =>
    intro p q id channel other hs
    cases hx : t.seen? (.step i) with
    | none => exact h.silent p q id channel other (by simpa [hx] using hs)
    | some x =>
      rw [hx] at hs
      -- only the last entry is new, and it cannot be a push
      rcases sublist_concat (show ([_, _] ++ [_]).Sublist (es ++ [x]) from hs) with hs | ⟨rfl, hm⟩
      · exact h.silent p q id channel other hs
      · obtain rfl : q = i := hplace _ hx
        exact h.begins_step hx (hm.subset List.mem_cons_self)
          (hm.subset (List.mem_cons_of_mem _ List.mem_cons_self))

theorem around (h : t.Orderly es) (now : Instant) (w : World MemoryStore σ)
    (hw : t.world.store.Change t.dispatcher.config.retry w.store)
    (hs : ∀ id r, t.world.store.find? id = some r → w.store.find? id = some r) :
    { t with now, world := w }.Orderly es where
  ids := h.ids
  locks := h.locks
  fits i d hd := (h.fits i d hd).frame fun id _ => hs id
  kept i id channel hm := by
    rcases h.kept i id channel hm with hd | ⟨r, hr, hp⟩
    · exact .inl hd
    · exact .inr ⟨r, hw.find?_of_terminal hr (by rw [hp]; rfl), hp⟩
  past := h.past
  once := h.once
  silent := h.silent

theorem move (h : t.Orderly es) (m : Move σ) : (t.move m).Orderly (es ++ (t.seen? m).toList) := by
  cases m with
  | step i => exact h.step i
  | clock now =>
    rw [show t.seen? (.clock now) = none from rfl, Option.toList_none, List.append_nil]
    exact h.around now t.world (.refl _ _) fun _ _ => id
  | prefer d =>
    rw [show t.seen? (.prefer d) = none from rfl, Option.toList_none, List.append_nil]
    exact h.around t.now { t.world with store := t.world.store.setPreferences d }
      (.kept d) fun _ _ => id
  | add n =>
    rw [show t.seen? (.add n) = none from rfl, Option.toList_none, List.append_nil]
    exact h.around t.now { t.world with store := t.world.store.append n } (.added n) fun _ _ hr =>
      MemoryStore.find?_append_of_some hr n
  | outside s =>
    rw [show t.seen? (.outside s) = none from rfl, Option.toList_none, List.append_nil]
    exact h.around t.now { t.world with outside := s } (.refl _ _) fun _ _ => id

theorem follow (h : t.Orderly es) (ms : List (Move σ)) :
    (t.follow ms).Orderly (es ++ t.history ms) := by
  induction ms generalizing t es with
  | nil => simpa [Traffic.follow, history] using h
  | cons m ms ih =>
    have hm := ih (h.move m)
    rw [List.append_assoc] at hm
    exact hm

theorem eq_of_pushing (h : t.Orderly es) {d e : Delivery MemoryStore σ α} {n m : Notification}
    (hi : t.deliveries[i]? = some d) (hj : t.deliveries[j]? = some e) (hd : d.pushing? = some n)
    (he : e.pushing? = some m) (hn : n.id = some id) (hm : m.id = some id) : i = j := by
  have hstake : ∀ {k : Nat} {c : Delivery MemoryStore σ α} {r : Notification},
      t.deliveries[k]? = some c → c.pushing? = some r → r.id = some id →
      Delivery.Stake (some id) .holding (t.locks.claim? k) := by
    intro k c r hk hc hr
    cases c with
    | attempting e a =>
      obtain ⟨_, hs, hcur, _⟩ := h.fits k _ hk
      obtain ⟨p, _, rfl⟩ := Option.map_eq_some_iff.1 hc
      exact (hcur.id_eq.symm.trans hr) ▸ hs
    | _ => cases hc
  exact h.locks.eq_of_stake (hstake hi hd hn) (hstake hj he hm)

end Orderly

/-- In every order of the steps of any calls, two deliveries never push one stored notification at
one time; after an attempt that some channel took, no push of that notification begins; and each
channel takes it once at most. -/
theorem single_flight (d : Dispatcher σ) (hd : d.channels.ids.Nodup) (now : Instant)
    (w : World MemoryStore σ) (calls : List (Delivery.Call α)) (moves : List (Move σ)) :
    let t := (opened d now w calls).follow moves
    let es := (opened d now w calls).history moves
    (∀ (i j : Nat) (c e : Delivery MemoryStore σ α) (n m : Notification) (id : Int),
      t.deliveries[i]? = some c → t.deliveries[j]? = some e → c.pushing? = some n →
        e.pushing? = some m →
      n.id = some id → m.id = some id → i = j) ∧
    (∀ i j id channel other, ¬ [⟨i, some id, .ends channel true⟩, ⟨i, some id, .closes⟩,
      ⟨j, some id, .begins other⟩].Sublist es) ∧
    (∀ id channel, es.countP (·.Accepts id channel) ≤ 1) := by
  intro t es
  have h : t.Orderly es := by
    have h := (orderly_opened hd now w calls).follow moves
    rwa [List.nil_append] at h
  exact ⟨fun i j c e n m id hi hj hc he hn hm => h.eq_of_pushing hi hj hc he hn hm,
    h.silent, h.once⟩

theorem single_flight_of_two :
    let post : PushChannel Unit := .immediate "post" (fun _ => true) (fun _ => true) (some {})
      fun _ _ _ => (.ok (), ())
    let d : Dispatcher Unit :=
      ⟨Roster.enlist .empty post, fun _ _ _ => .ok ⟨⟨.text, "", ""⟩, .empty⟩, .empty, {}⟩
    let n : Notification := .create "ann" "news" .epoch
    let s : MemoryStore := (MemoryStore.empty.append n).setPreferences
      (.ofList [("ann", { user := "ann" })])
    let calls : List (Delivery.Call Unit) :=
      [.processNext fun _ => (), .dispatchNow { n with id := some 1 } fun _ => ()]
    let moves : List (Move Unit) :=
      [0, 1, 0, 0, 0, 1, 0, 0, 0, 0, 0, 0, 1, 0, 1, 1, 1].map .step
    let es := (opened d .epoch ⟨s, ()⟩ calls).history moves
    d.channels.ids.Nodup ∧
      es = [⟨0, some 1, .begins "post"⟩, ⟨0, some 1, .ends "post" true⟩, ⟨0, some 1, .closes⟩] ∧
      es.countP (·.Accepts 1 "post") ≤ 1 := by
  intro post d n s calls moves es
  have hd : d.channels.ids.Nodup := by decide
  exact ⟨hd, by decide +kernel, (single_flight d hd .epoch ⟨s, ()⟩ calls moves).2.2 1 "post"⟩

end Traffic

end Herald
