import Herald.Engine
import Herald.Proofs.Engine.Worker
import Herald.Proofs.Notification.Lifecycle
/-!
Workers, and those who enqueue, in any order of their steps: no ring is lost. As long as something
is due, somebody is on the way to it, or a ring is kept for the next who comes, or one is still to
come.
-/

set_option autoImplicit false

namespace Herald

namespace Bell

def rings (k : Nat) (b : Bell) : Bell := ⟨b.kept || b.line.length.blt k, b.line.drop k⟩

theorem rings_zero (b : Bell) : b.rings 0 = b := by
  have h : b.line.length.blt 0 = false := rfl
  simp [rings, h]

theorem rings_ring (k : Nat) (b : Bell) : b.ring.rings k = b.rings (k + 1) := by
  obtain ⟨kept, line⟩ := b
  cases line with
  | nil => simp [ring, rings, Nat.blt]
  | cons w ws => rfl

/-- One ring is enough to be kept if nobody is in line. -/
theorem kept_rings {k : Nat} (hk : 0 < k) {b : Bell} (hb : b.line = []) :
    (b.rings k).kept = true := by
  simp only [rings, hb, List.length_nil, Nat.blt, Bool.or_eq_true, Nat.ble_eq]
  exact .inr hk

theorem isInLine_await {w v : Nat} (h : v ≠ w) (b : Bell) :
    (b.await w).2.isInLine v = b.isInLine v := by
  unfold await
  split <;> simp [isInLine, h]

end Bell

/-- All listeners are deaf to the bell or ring it, and one does. -/
structure Hall.Rings {S σ : Type} (h : Hall S σ) : Prop where
  rung : .ringing ∈ h.service.listeners.toList
  beside : ∀ l ∈ h.service.listeners.toList, l = .ringing ∨ ∃ m :
  Listener Notification σ, l = m.besideBell

namespace Hall

variable {S σ : Type} {h : Hall S σ}

theorem rings_heedEnqueues
    (hl : ∀ l ∈ h.service.listeners.toList, ∃ m : Listener Notification σ, l = m.besideBell) :
    h.heedEnqueues.Rings := by
  have ht : h.heedEnqueues.service.listeners.toList = h.service.listeners.toList ++ [.ringing] :=
    Registry.toList_add ..
  constructor
  · simp [ht]
  · intro l hm
    rw [ht] at hm
    rcases List.mem_append.1 hm with hm | hm
    · exact .inr (hl l hm)
    · exact .inl (List.mem_singleton.1 hm)

theorem Rings.addEnqueueListener (hr : h.Rings) (name : String) (l : Listener Notification σ) :
    (h.addEnqueueListener name l).Rings := by
  have ht : (h.addEnqueueListener name l).service.listeners.toList =
      h.service.listeners.toList ++ [l.besideBell] := Registry.toList_add ..
  constructor
  · rw [ht]
    exact List.mem_append_left _ hr.rung
  · intro k hm
    rw [ht] at hm
    rcases List.mem_append.1 hm with hm | hm
    · exact hr.beside k hm
    · exact .inr ⟨l, List.mem_singleton.1 hm⟩

end Hall

theorem Listener.bell_tellAll {σ : Type} {ls : List (Listener Notification (σ × Bell))}
    (hls : ∀ l ∈ ls, l = .ringing ∨ ∃ m : Listener Notification σ, l = m.besideBell)
    (n : Notification)
    (o : σ) (b : Bell) : ∃ k, (tellAll ls n (o, b)).2 = b.rings k ∧ (.ringing ∈ ls → 0 < k) := by
  induction ls generalizing o b with
  | nil => exact ⟨0, b.rings_zero.symm, by simp⟩
  | cons l ls ih =>
    have ih := ih fun m hm => hls m (List.mem_cons_of_mem _ hm)
    rw [tellAll_cons]
    rcases hls l List.mem_cons_self with rfl | ⟨m, rfl⟩
    · obtain ⟨k, hk, _⟩ := ih o b.ring
      exact ⟨k + 1, hk.trans (b.rings_ring k), fun _ => Nat.succ_pos k⟩
    · obtain ⟨k, hk, hr⟩ := ih (m.hear n o).2 b
      refine ⟨k, hk, fun hm => ?_⟩
      rcases List.mem_cons.1 hm with he | hm
      · have hb := congrArg (fun l => (l.hear n (o, Bell.quiet)).2.2) he
        exact absurd hb (show ¬ Bell.quiet.ring = Bell.quiet by decide)
      · exact hr hm

def Call.Enqueues {S σ α : Type} : Call S σ α → Prop
  | .keeping .. | .telling .. | .over _ => True
  | .once _ | .delivery _ | .starting .. | .stopping .. => False

def Worker.isBlocked {S σ : Type} (b : Bell) (place : Nat) : Worker S σ → Bool
  | .waiting => b.isInLine place
  | _ => false

theorem Worker.Alert.congr {σ : Type} {w : Worker MemoryStore σ} {b b' : Bell} {place : Nat}
    (h : w.Alert b place) (hb : b.isInLine place = false → b'.isInLine place = false) :
    w.Alert b' place := by
  cases w with
  | waiting => exact hb h
  | _ => exact h

namespace Engine

variable {σ α : Type} {e : Engine MemoryStore σ α} {i : Nat} {w : Worker MemoryStore σ}

def staffed (h : Hall MemoryStore σ) (workers : Nat) (calls : List (Call MemoryStore σ α)) :
    Engine MemoryStore σ α :=
  { (ofHall h : Engine MemoryStore σ α) with workers := List.replicate workers .turning, calls }

def IsTelling (e : Engine MemoryStore σ α) : Prop :=
  ∃ (i : Nat) (n : Notification) (a : α), e.calls[i]? = some (.telling n a)

/-- Somebody sees to what is due. -/
def Vigilant (e : Engine MemoryStore σ α) : Prop :=
  (∃ (i : Nat) (w : Worker MemoryStore σ), e.workers[i]? = some w ∧ w.Alert e.hall.bell i) ∨
    e.hall.bell.kept = true ∨ e.IsTelling

/-- What holds between any two steps. -/
structure Watched (e : Engine MemoryStore σ α) : Prop where
  rings : e.hall.Rings
  running : e.hall.shift.cancelled = false
  locks : e.locks.Sound
  fits : ∀ (i : Nat) (w : Worker MemoryStore σ), e.workers[i]? = some w →
    w.Fits e.hall.world.store (e.locks.claim? (Task.worker i))
  nodup : e.hall.bell.line.Nodup
  line : ∀ i ∈ e.hall.bell.line, e.workers[i]? = some .waiting
  enqueues : ∀ (i : Nat) (c : Call MemoryStore σ α), e.calls[i]? = some c → c.Enqueues
  vigilant : e.hall.world.store.due e.hall.now ≠ [] → e.Vigilant

theorem watched_staffed {h : Hall MemoryStore σ} (rings : h.Rings)
    (running : h.shift.cancelled = false)
    (quiet : h.bell.line = []) {workers : Nat} (manned : 0 < workers)
    {calls : List (Call MemoryStore σ α)}
    (enqueues : ∀ c ∈ calls, c.Enqueues) : (staffed h workers calls).Watched where
  rings := rings
  running := running
  locks := KeyLock.Sound.empty
  fits i w hw := by
    obtain rfl : w = .turning := List.eq_of_mem_replicate (List.mem_of_getElem? hw)
    rfl
  nodup := by
    show h.bell.line.Nodup
    rw [quiet]
    exact .nil
  line i hi := by
    have hi : i ∈ h.bell.line := hi
    rw [quiet] at hi
    cases hi
  enqueues i c hc := enqueues c (List.mem_of_getElem? hc)
  vigilant _ := .inl ⟨0, .turning, by simp [staffed, manned], trivial⟩

theorem workers_stepWorker (hi : e.workers[i]? = some w) :
    (e.stepWorker i w).workers[i]? =
      some (w.step e.hall.dispatcher i (Task.worker i) e.hall.now e.hall.shift
      e.hall.bell e.locks e.hall.world).1 ∧
    ∀ j, j ≠ i → (e.stepWorker i w).workers[j]? = e.workers[j]? := by
  refine ⟨?_, fun j hj => ?_⟩
  · exact List.getElem?_set_self (List.getElem?_eq_some_iff.1 hi).1
  · exact List.getElem?_set_ne (Ne.symm hj)

namespace Watched

theorem fits_stepWorker (h : e.Watched) (hi : e.workers[i]? = some w) (j : Nat)
    (v : Worker MemoryStore σ) (hv : (e.stepWorker i w).workers[j]? = some v) :
    v.Fits (e.stepWorker i w).hall.world.store
      ((e.stepWorker i w).locks.claim? (Task.worker j)) := by
  obtain ⟨hself, hothers⟩ := workers_stepWorker hi
  have hw := h.fits i w hi
  by_cases hij : j = i
  · subst hij
    rw [hself] at hv
    cases hv
    exact Worker.fits_step e.hall.shift _ _ _ _ _ h.locks hw
  · rw [hothers j hij] at hv
    have hne : Task.worker j ≠ Task.worker i := fun he => hij (Task.worker.inj he)
    have hc : (e.stepWorker i w).locks.claim? (Task.worker j) = e.locks.claim? (Task.worker j) :=
      Worker.claim?_step_of_ne e.hall.shift _ _ _ _ _ _ _ hne
    rw [hc]
    exact (h.fits j v hv).frame fun id hk r hr =>
      Worker.find?_step e.hall.shift _ _ _ _ _ h.locks hw hne hk hr

theorem not_mem_line (h : e.Watched) (hi : e.workers[i]? = some w) (hw : w ≠ .waiting) :
    i ∉ e.hall.bell.line := fun hm => hw (Option.some.inj (hi.symm.trans (h.line i hm)))

theorem line_stepWorker (h : e.Watched) (hi : e.workers[i]? = some w) :
    (e.stepWorker i w).hall.bell.line.Nodup ∧
      ∀ j ∈ (e.stepWorker i w).hall.bell.line, (e.stepWorker i w).workers[j]? = some .waiting := by
  obtain ⟨hself, hothers⟩ := workers_stepWorker hi
  have hb : (e.stepWorker i w).hall.bell = _ :=
    Worker.bell_step e.hall.shift e.hall.dispatcher i (Task.worker i)
    e.hall.now e.hall.bell e.locks e.hall.world h.running
  have same (hl : (e.stepWorker i w).hall.bell.line = e.hall.bell.line)
      (hm : i ∈ e.hall.bell.line → (e.stepWorker i w).workers[i]? = some .waiting) :
      (e.stepWorker i w).hall.bell.line.Nodup ∧
        ∀ j ∈ (e.stepWorker i w).hall.bell.line, (e.stepWorker i w).workers[j]? =
          some .waiting := by
    rw [hl]
    refine ⟨h.nodup, fun j hj => ?_⟩
    by_cases hij : j = i
    · exact hij ▸ hm (hij ▸ hj)
    · rw [hothers j hij]
      exact h.line j hj
  cases w with
  | waiting =>
    refine same (by rw [hb]) fun hm => ?_
    rw [hself]
    simp [Worker.step, Bell.isInLine, hm, h.running]
  | resting =>
    have hn := h.not_mem_line hi (by simp)
    cases hk : e.hall.bell.kept with
    | true => exact same (by rw [hb]; simp [Bell.await, hk]) fun hm => absurd hm hn
    | false =>
      have hline : (e.stepWorker i .resting).hall.bell.line = e.hall.bell.line ++ [i] := by
        rw [hb]
        simp [Bell.await, hk]
      rw [hline]
      refine ⟨?_, fun j hj => ?_⟩
      · exact List.nodup_append.2 ⟨h.nodup, by simp, fun a ha b hb hab => by
          obtain rfl := List.mem_singleton.1 hb
          exact hn (hab ▸ ha)⟩
      · by_cases hij : j = i
        · subst hij
          rw [hself]
          simp [Worker.step, Bell.await, hk, h.running]
        · rw [hothers j hij]
          rcases List.mem_append.1 hj with hj | hj
          · exact h.line j hj
          · exact absurd (List.mem_singleton.1 hj) hij
  | turning => exact same (by rw [hb]) fun hm => absurd hm (h.not_mem_line hi (by simp))
  | inside d => exact same (by rw [hb]) fun hm => absurd hm (h.not_mem_line hi (by simp))
  | stopped => exact same (by rw [hb]) fun hm => absurd hm (h.not_mem_line hi (by simp))

theorem vigilant_stepWorker (h : e.Watched) (hi : e.workers[i]? = some w)
    (hdue : (e.stepWorker i w).hall.world.store.due e.hall.now ≠ []) :
    (e.stepWorker i w).Vigilant := by
  obtain ⟨hself, hothers⟩ := workers_stepWorker hi
  have hb : (e.stepWorker i w).hall.bell = _ :=
    Worker.bell_step e.hall.shift e.hall.dispatcher i (Task.worker i)
    e.hall.now e.hall.bell e.locks e.hall.world h.running
  refine Classical.byContradiction fun hn => ?_
  -- the worker itself does not see to it, so it did not before, and what is due was due
  have hafter :
    ¬ (w.step e.hall.dispatcher i (Task.worker i) e.hall.now e.hall.shift e.hall.bell e.locks
      e.hall.world).1.Alert (e.stepWorker i w).hall.bell i := fun ha => hn (.inl ⟨i, _, hself, ha⟩)
  have hbefore : ¬ w.Alert e.hall.bell i := by
    intro ha
    rcases Worker.alert_step e.hall.shift e.hall.dispatcher i (Task.worker i) e.hall.now e.hall.bell
      (h.fits i w hi) h.running ha with ha' | hnone
    · refine hafter ?_
      rw [hb]
      cases w with
      | resting => exact ha.elim
      | _ => exact ha'
    · exact hdue hnone
  have hworld : (e.stepWorker i w).hall.world = e.hall.world :=
    Worker.store_of_quiet e.hall.shift e.hall.dispatcher i (Task.worker i)
      e.hall.now e.hall.bell hbefore
  rw [hworld] at hdue
  rcases h.vigilant hdue with ⟨j, v, hv, ha⟩ | hk | ht
  · have hij : j ≠ i := by
      rintro rfl
      rw [hi] at hv
      cases hv
      exact hbefore ha
    refine hn (.inl ⟨j, v, (hothers j hij).trans hv, ha.congr fun hj => ?_⟩)
    rw [hb]
    cases w with
    | resting => exact (Bell.isInLine_await hij _).trans hj
    | _ => exact hj
  · cases w with
    | resting =>
      refine hafter ?_
      simp [Worker.step, Bell.await, hk, h.running, Worker.Alert]
    | _ => exact hn (.inr (.inl (hb ▸ hk)))
  · exact hn (.inr (.inr ht))

theorem stepWorker (h : e.Watched) (hi : e.workers[i]? = some w) : (e.stepWorker i w).Watched where
  rings := ⟨h.rings.rung, h.rings.beside⟩
  running := h.running
  locks := Worker.sound_step e.hall.shift _ _ _ _ _ h.locks (h.fits i w hi)
  fits := h.fits_stepWorker hi
  nodup := (h.line_stepWorker hi).1
  line := (h.line_stepWorker hi).2
  enqueues := h.enqueues
  vigilant := h.vigilant_stepWorker hi

/-- A call may add records, and may let workers out of the line. -/
theorem afterCall (h : e.Watched) (world : World MemoryStore σ) (bell : Bell)
    {c : Call MemoryStore σ α}
    (hc : c.Enqueues) (hs : ∀ id r, e.hall.world.store.find? id = some r →
      world.store.find? id = some r)
    (hline : bell.line.Sublist e.hall.bell.line)
    (hv : world.store.due e.hall.now ≠ [] →
      ({ e with hall := { e.hall with world, bell }, calls := e.calls.set i c } :
        Engine _ σ α).Vigilant) :
    ({ e with hall := { e.hall with world, bell }, calls := e.calls.set i c } :
      Engine _ σ α).Watched where
  rings := ⟨h.rings.rung, h.rings.beside⟩
  running := h.running
  locks := h.locks
  fits j v hv := (h.fits j v hv).frame fun id _ => hs id
  nodup := h.nodup.sublist hline
  line j hj := h.line j (hline.subset hj)
  enqueues j d hd := by
    simp only [List.getElem?_set] at hd
    split at hd
    · split at hd <;> cases hd
      exact hc
    · exact h.enqueues j d hd
  vigilant := hv

theorem vigilant_of_over (h : e.Watched) {c : Call MemoryStore σ α} (hi : e.calls[i]? = some c)
    (hc : ∀ n a, c ≠ .telling n a) (hdue : e.hall.world.store.due e.hall.now ≠ [])
    (d : Call MemoryStore σ α) : (e.setCall i d).Vigilant := by
  rcases h.vigilant hdue with ha | hk | ⟨j, n, a, hj⟩
  · exact .inl ha
  · exact .inr (.inl hk)
  · have hij : j ≠ i := by
      rintro rfl
      exact hc n a (Option.some.inj (hi.symm.trans hj))
    exact .inr (.inr ⟨j, n, a, (List.getElem?_set_ne (Ne.symm hij)).trans hj⟩)

theorem keeping (h : e.Watched) {source : Instant → MemoryStore → α ⊕ Notification}
    {f : Except Fault Notification → α} (hi : e.calls[i]? = some (.keeping source f)) :
    (e.stepCall i (.keeping source f)).Watched := by
  have hover : ∀ a, (e.setCall i (.over a)).Watched := fun a =>
    h.afterCall e.hall.world e.hall.bell trivial (fun _ _ => id) (.refl _) fun hdue =>
      h.vigilant_of_over hi (by simp) hdue _
  simp only [Engine.stepCall]
  split
  · exact hover _
  · next n _ =>
    simp only [Hall.onStore, Hall.keep_eq]
    split
    · next why hall hk =>
      split at hk <;> cases hk
      exact hover _
    · next m hall hk =>
      split at hk <;> cases hk
      exact h.afterCall _ e.hall.bell trivial
        (fun _ _ hr => MemoryStore.find?_append_of_some hr _) (.refl _)
        fun _ => .inr (.inr ⟨i, _, _, List.getElem?_set_self (List.getElem?_eq_some_iff.1 hi).1⟩)

theorem telling (h : e.Watched) {n : Notification} {a : α} :
    (e.stepCall i (.telling n a)).Watched := by
  obtain ⟨k, hk, hpos⟩ := Listener.bell_tellAll h.rings.beside n e.hall.world.outside e.hall.bell
  have hpos := hpos h.rings.rung
  have hline : (e.hall.tell n).bell.line = e.hall.bell.line.drop k := congrArg Bell.line hk
  refine h.afterCall (e.hall.tell n).world (e.hall.tell n).bell trivial (fun _ _ => id)
    (hline ▸ List.drop_sublist _ _) fun _ => ?_
  cases hb : e.hall.bell.line with
  | nil => exact .inr (.inl ((congrArg Bell.kept hk).trans (Bell.kept_rings hpos hb)))
  | cons j js =>
    have hj := h.line j (hb ▸ List.mem_cons_self)
    refine .inl ⟨j, .waiting, hj, ?_⟩
    have hnodup := h.nodup
    rw [hb] at hnodup
    have hn : j ∉ (e.hall.tell n).bell.line := by
      rw [hline, hb]
      intro hm
      obtain ⟨k', rfl⟩ := Nat.exists_eq_succ_of_ne_zero (Nat.ne_of_gt hpos)
      exact (List.nodup_cons.1 hnodup).1 (List.mem_of_mem_drop hm)
    simpa [Worker.Alert, Bell.isInLine] using hn

theorem stepCall (h : e.Watched) {c : Call MemoryStore σ α} (hi : e.calls[i]? = some c) :
    (e.stepCall i c).Watched := by
  have hc := h.enqueues i c hi
  cases c with
  | keeping source f => exact h.keeping hi
  | telling n a => exact h.telling
  | once | delivery | starting | stopping => exact hc.elim
  | _ => exact h

theorem step (h : e.Watched) (t : Task) : (e.step t).Watched := by
  cases t with
  | worker i =>
    cases hi : e.workers[i]? with
    | none => simpa only [Engine.step, hi] using h
    | some w => simpa only [Engine.step, hi] using h.stepWorker hi
  | call i =>
    cases hi : e.calls[i]? with
    | none => simpa only [Engine.step, hi] using h
    | some c => simpa only [Engine.step, hi] using h.stepCall hi

theorem run (h : e.Watched) (order : List Task) : (e.run order).Watched := by
  induction order generalizing e with
  | nil => exact h
  | cons t ts ih => exact ih (h.step t)

end Watched

/-- Whatever the order of their steps, if all workers are blocked, of whom there is at least one, no
ring is kept and none is still to come, then nothing is due. -/
theorem asleep_only_if_nothing_due {h : Hall MemoryStore σ} (rings : h.Rings)
    (running : h.shift.cancelled = false) (quiet : h.bell.line = []) {workers : Nat}
    (manned : 0 < workers) {calls : List (Call MemoryStore σ α)}
    (enqueues : ∀ c ∈ calls, ∃ source f, c = .keeping source f)
    (order : List Task) :
    let e := (staffed h workers calls).run order
    (∀ (i : Nat) (w : Worker MemoryStore σ), e.workers[i]? = some w →
      w.isBlocked e.hall.bell i = true) →
      e.hall.bell.kept = false → ¬ e.IsTelling → e.hall.world.store.due e.hall.now = [] := by
  intro e blocked kept silent
  have hc : ∀ c ∈ calls, c.Enqueues := by
    intro c hc
    obtain ⟨source, f, rfl⟩ := enqueues c hc
    trivial
  have hw : e.Watched := (watched_staffed rings running quiet manned hc).run order
  refine Classical.byContradiction fun hdue => ?_
  rcases hw.vigilant hdue with ⟨i, w, hi, ha⟩ | hk | ht
  · have hb := blocked i w hi
    cases w with
    | waiting => exact absurd (hb.symm.trans ha) (by decide)
    | _ => cases hb
  · exact absurd (hk.symm.trans kept) (by decide)
  · exact silent ht

theorem asleep_only_if_nothing_due_of_two :
    let post : PushChannel Unit := .immediate "post" (fun _ => true) (fun _ => true) (some {})
      fun _ _ _ => (.error (.transient "later"), ())
    let atOnce : BackoffTable := ⟨[.zero], by decide, by decide⟩
    let d : Dispatcher Unit :=
      ⟨Roster.enlist .empty post, fun _ _ _ => .ok ⟨⟨.text, "", ""⟩, .empty⟩,
      .empty, { retry := { backoff := atOnce } }⟩
    let n : Notification := .create "ann" "news" .epoch
    let s := MemoryStore.empty.setPreferences (.ofList [("ann", { user := "ann" })])
    let h : Hall MemoryStore Unit :=
      (Hall.create .epoch ⟨s, ()⟩ d (.empty .empty) 2).heedEnqueues.addEnqueueListener "log"
        ⟨fun _ s => (.done, s)⟩
    let enqueue : Call MemoryStore Unit Unit := .keeping (fun _ _ => .inr n) fun _ => ()
    let both := (List.replicate 60 [Task.worker 0, .worker 1]).flatten
    let order := [.worker 0, .worker 0, .call 0, .call 0, .call 1] ++ both ++ [.call 1] ++ both
    let e := (staffed h 2 [enqueue, enqueue]).run order
    h.Rings ∧ h.shift.cancelled = false ∧ h.bell.line = [] ∧
      (∀ (i : Nat) (w : Worker MemoryStore Unit), e.workers[i]? = some w →
        w.isBlocked e.hall.bell i = true) ∧
      e.hall.bell.kept = false ∧ ¬ e.IsTelling ∧ e.hall.world.store.size = 2 ∧
      e.hall.world.store.due e.hall.now = [] := by
  intro post atOnce d n s h enqueue both order e
  have rings : h.Rings :=
    (Hall.rings_heedEnqueues (by simp [Hall.create, Service.empty, Registry.empty,
    Registry.toList])).addEnqueueListener _ _
  have enqueues : ∀ c ∈ [enqueue, enqueue], ∃ source f, c = .keeping source f := by
    intro c hc
    simp only [List.mem_cons, List.not_mem_nil, or_false, or_self] at hc
    exact ⟨_, _, hc⟩
  have blocked : ∀ (i : Nat) (w : Worker MemoryStore Unit), e.workers[i]? = some w →
      w.isBlocked e.hall.bell i = true := by
    have hall : (e.workers.zipIdx.all fun x => x.1.isBlocked e.hall.bell x.2) =
      true := by decide +kernel
    exact fun i w hi => List.all_eq_true.1 hall (w, i) (List.mem_zipIdx_iff_getElem?.2 hi)
  have kept : e.hall.bell.kept = false := by decide +kernel
  have silent : ¬ e.IsTelling := by
    have hall : e.calls.all Call.isOver = true := by decide +kernel
    rintro ⟨i, m, a, hi⟩
    exact absurd (List.all_eq_true.1 hall _ (List.mem_of_getElem? hi))
      (by simp [Call.isOver, Call.answer?])
  have size : e.hall.world.store.size = 2 := by decide +kernel
  -- named, so that the run is not computed again
  have he : e = (staffed h 2 [enqueue, enqueue]).run order := rfl
  have hdue := asleep_only_if_nothing_due rings rfl rfl (show 0 < 2 by decide) enqueues order
  simp only [← he] at hdue
  exact ⟨rings, rfl, rfl, blocked, kept, silent, size, hdue blocked kept silent⟩

/-- Where nobody was hired, nobody sees to what was there before. -/
theorem due_without_workers :
    let d : Dispatcher Unit := ⟨.empty, fun _ _ _ => .ok ⟨⟨.text, "", ""⟩, .empty⟩, .empty, {}⟩
    let s := MemoryStore.empty.append (.create "ann" "news" .epoch)
    let h : Hall MemoryStore Unit := (Hall.create .epoch ⟨s, ()⟩ d (.empty .empty) 0).heedEnqueues
    let e : Engine MemoryStore Unit Unit := (staffed h 0 []).run []
    h.Rings ∧ h.shift.cancelled = false ∧ h.bell.line = [] ∧
      (∀ (i : Nat) (w : Worker MemoryStore Unit), e.workers[i]? = some w →
        w.isBlocked e.hall.bell i = true) ∧
      e.hall.bell.kept = false ∧ ¬ e.IsTelling ∧ e.hall.world.store.due e.hall.now ≠ [] := by
  intro d s h e
  have rings : h.Rings := Hall.rings_heedEnqueues
    (by simp [Hall.create, Service.empty, Registry.empty,
    Registry.toList])
  have hworkers : e.workers = [] := rfl
  have hcalls : e.calls = [] := rfl
  refine ⟨rings, rfl, rfl, by simp [hworkers], rfl, ?_, by decide +kernel⟩
  rintro ⟨i, m, a, hi⟩
  simp [hcalls] at hi

end Engine

end Herald
