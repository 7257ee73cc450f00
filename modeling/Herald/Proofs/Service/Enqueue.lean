import Herald.Engine
import Herald.Proofs.Delivery.AtOnce
import Herald.Proofs.Time.Delay
import Herald.Proofs.FanOut.Account
import Herald.Proofs.Store.Numbers
/-!
Enqueues: either one record is new, under a number that nothing had before, and every listener is
told of it once; or all is as it was and nobody is told of anything.
-/

set_option autoImplicit false

namespace Herald

open Json (Doc)

def Notification.IsStored (n : Notification) (f : Fault) : Prop :=
  ∃ id, n.id = some id ∧ f = .invalid (.alreadyStored id)

namespace MemoryStore

structure Adds (now : Instant) (s : MemoryStore) (m : Notification) (s' : MemoryStore) : Prop where
  number : m.id = some s.nextId
  records : s'.records = s.records ++ [(s.nextId, m)]
  preferences : s'.preferences = s.preferences
  found : Store.get s.nextId s' = .ok (some m)
  due : m.isDue now = true

theorem adds_append {n : Notification} {now : Instant} (s : MemoryStore) :
    s.Adds now { n.requeued now with id := some s.nextId } (s.append (n.requeued now)) where
  number := rfl
  records := rfl
  preferences := rfl
  found := by simp [Store.get]
  due := by simp [Notification.isDue, Notification.requeued, PushStatus.queuedAt, Instant.le_refl]

end MemoryStore

namespace Table

/-- The row of `m` is new, and due; and what can be read of it is `m`, as far as rows keep it. -/
structure Adds [Objections] (now : Instant) (t : Table) (m : Notification) (t' : Table) : Prop where
  number : m.id = some t.nextId
  rows : t'.rows = t.rows ++ [.ofNotification t.nextId m]
  preferences : t'.preferences = t.preferences
  found : ∀ c, Bag.read? m.params.encode.toText = some c →
    Store.get t.nextId t' = .ok (some { m.truncated with params := c }) ∧
      (c.same m.params = true ↔ m.params.Kept Doc.maxDepth)
  due : .ofNotification t.nextId m ∈ t'.due now.toMillis

theorem adds_append [Objections] {n : Notification} {now : Instant} (t : Table) :
    t.Adds now { n.requeued now with id := some t.nextId }
      (t.append (.ofNotification t.nextId (n.requeued now))) where
  number := rfl
  rows := rfl
  preferences := rfl
  found c hc := by
    refine ⟨?_, (kept_of_readable hc).symm⟩
    have hr := Row.notification_truncated (n := n.requeued now) hc t.nextId n.createdAt.toMillis
    simp only [Store.get, find?_append, if_true]
    exact congrArg (Except.map some) hr
  due := by
    refine List.mem_filter.2 ⟨List.mem_append_right _ (List.mem_singleton_self _), ?_⟩
    simp [Row.isDue, Row.ofNotification, Notification.requeued, PushStatus.queuedAt]

end Table

namespace Service

variable {S σ τ : Type}

def noted (sv : Service S σ τ) : Service S σ (τ × List (Nat × Notification)) where
  pullChannels := sv.pullChannels
  listeners := ⟨sv.listeners.entries.zipIdx.map fun x => (x.1.1, x.1.2.noting (Prod.mk x.2))⟩
  defaultParams := sv.defaultParams

theorem tellAll_noted (sv : Service S σ τ) (m : Notification) (t : τ) :
    Listener.tellAll sv.noted.listeners.toList m (t, []) =
      (Listener.tellAll sv.listeners.toList m t, (List.range sv.listeners.size).map (·, m)) := by
  have hl : sv.noted.listeners.toList =
      sv.listeners.toList.zipIdx.map fun x => x.1.noting (Prod.mk x.2) := by
    simp [noted, Registry.toList, List.zipIdx_map, Function.comp_def]
  have ht := Listener.tellAll_noting sv.listeners.toList Prod.mk 0 m t []
  rw [hl, ht, List.nil_append, ← List.range_eq_range', Registry.toList,
    List.length_map, Registry.size]

variable [Store S]

/-- What an enqueue comes to: its answer, the store it leaves, and what listeners hear at which
place. -/
inductive Entered (adds : S → Notification → S → Prop) (refuses : S → Notification → Fault → Prop)
    (n : Notification) (now : Instant) (s : S) (listeners : Nat) :
    Except Fault Notification → S → List (Nat × Notification) → Prop where
  | stored {m : Notification} {s' : S} (unsaved : n.id = none)
      (same : m = { n with id := m.id, push := ⟨.queued, now, 0, none⟩ }) (added : adds s m s') :
    Entered adds refuses n now s listeners (.ok m) s' ((List.range listeners).map (·, m))
  | refused {f : Fault} (fault : refuses s n f) :
  Entered adds refuses n now s listeners (.error f) s []

def Enters (empty : S) (adds : Instant → S → Notification → S → Prop)
    (refuses : S → Notification → Fault → Prop) (σ τ : Type) : Prop :=
  ∀ (sv : Service S σ τ) (qs : List Request) (n : Notification) (now : Instant) (t : τ),
    let s := Request.run empty qs
    ∃ r s' t' heard, keep n now s = (r, s') ∧ sv.enqueue n now s t = (r, s', t') ∧
      sv.noted.enqueue n now s (t, []) = (r, s', t', heard) ∧
      Entered (adds now) refuses n now s sv.listeners.size r s' heard ∧
      ∀ m id, r = .ok m → m.id = some id → .number (.ok id) ∉ replies empty qs

theorem enters {empty : S} {adds : Instant → S → Notification → S → Prop}
    {refuses : S → Notification → Fault → Prop} {next : S → Int} (counting : Store.Counting S next)
    (number : ∀ {now s m s'}, adds now s m s' → m.id = some (next s))
    (stored : ∀ {n now s m s'}, keep n now s = (.ok m, s') →
      n.id = none ∧ m = { n with id := m.id, push := ⟨.queued, now, 0, none⟩ } ∧ adds now s m s')
    (refused : ∀ {n now s f s'}, keep n now s = (.error f, s') → s' = s ∧ refuses s n f)
      (σ τ : Type) :
    Enters empty adds refuses σ τ := by
  intro sv qs n now t s
  cases hk : keep n now s with
  | mk r s' =>
    cases r with
    | ok m =>
      obtain ⟨unsaved, same, added⟩ := stored hk
      refine ⟨.ok m, s', Listener.tellAll sv.listeners.toList m t, _, rfl, ?_, ?_,
        .stored unsaved same added, ?_⟩
      · simp only [enqueue, hk]
      · simp only [enqueue, hk, tellAll_noted]
      · rintro _ id ⟨⟩ hid hgiven
        have hlt : id < next s := counting.lt_next hgiven
        have he := Option.some.inj (hid.symm.trans (number added))
        omega
    | error f =>
      obtain ⟨rfl, fault⟩ := refused hk
      refine ⟨.error f, s, t, [], rfl, ?_, ?_, .refused fault, ?_⟩
      · simp only [enqueue, hk]
      · simp only [enqueue, hk]
      · rintro _ _ ⟨⟩

end Service

theorem MemoryStore.enters (σ τ : Type) :
    Service.Enters empty Adds (fun _ => Notification.IsStored) σ τ := by
  refine Service.enters counting (fun h => h.number) (fun {n now s m s'} h => ?_)
    (fun {n now s f s'} h => ?_) σ τ
  · simp only [Service.keep] at h
    split at h
    · cases h
    · next unsaved =>
      cases h
      exact ⟨unsaved, rfl, s.adds_append⟩
  · simp only [Service.keep] at h
    split at h
    · next id hid =>
      cases h
      exact ⟨rfl, id, hid, rfl⟩
    · cases h

namespace Table

/-- It is stored, or its confirmation key is that of some row. -/
def Refuses (t : Table) (n : Notification) (f : Fault) : Prop :=
  n.IsStored f ∨ n.id = none ∧ t.HasKeyOf n ∧ f = .database .uniqueViolation

theorem enters [Objections] (σ τ : Type) : Service.Enters empty Adds Refuses σ τ := by
  have key (t : Table) (n : Notification) (now : Instant) : t.HasKeyOf (n.requeued now) ↔
    t.HasKeyOf n := Iff.rfl
  refine Service.enters counting (fun h => h.number) (fun {n now t m t'} h => ?_)
    (fun {n now t f t'} h => ?_) σ τ
  · simp only [Service.keep] at h
    split at h
    · cases h
    · next unsaved =>
      by_cases taken : t.HasKeyOf n
      · rw [saved_of_taken ((key t n now).2 taken)] at h
        cases h
      · rw [saved_of_free (mt (key t n now).1 taken)] at h
        cases h
        exact ⟨unsaved, rfl, t.adds_append⟩
  · simp only [Service.keep] at h
    split at h
    · next id hid =>
      cases h
      exact ⟨rfl, .inl ⟨id, hid, rfl⟩⟩
    · next unsaved =>
      by_cases taken : t.HasKeyOf n
      · rw [saved_of_taken ((key t n now).2 taken)] at h
        cases h
        exact ⟨rfl, .inr ⟨unsaved, taken, rfl⟩⟩
      · rw [saved_of_free (mt (key t n now).1 taken)] at h
        cases h

end Table

namespace Engine

variable {S σ α : Type} [Store S] {e : Engine S σ α} {place : Nat}

theorem calls_stepCall_of_ne (e : Engine S σ α) {i j : Nat} (h : i ≠ j) (c : Call S σ α) :
    (e.stepCall i c).calls[j]? = e.calls[j]? := by
  have set (d : Call S σ α) : (e.calls.set i d)[j]? = e.calls[j]? := List.getElem?_set_ne h
  cases c with
  | once f => exact set _
  | keeping source f =>
    simp only [stepCall]
    split
    · exact set _
    · split <;> exact set _
  | telling n a => exact set _
  | delivery d => exact set _
  | starting s f => cases s <;> exact set _
  | stopping s f => cases s <;> exact set _
  | _ => rfl

theorem calls_run_of_not_mem {order : List Task} (e : Engine S σ α) (h : .call place ∉ order) :
    (e.run order).calls[place]? = e.calls[place]? := by
  induction order generalizing e with
  | nil => rfl
  | cons t order ih =>
    simp only [List.mem_cons, not_or] at h
    obtain ⟨hne, hrest⟩ := h
    rw [run, List.foldl_cons, ← run, ih _ hrest]
    cases t with
    | worker i =>
      simp only [step]
      split <;> rfl
    | call i =>
      have hi : i ≠ place := fun he => hne (he ▸ rfl)
      simp only [step]
      split
      · rfl
      · exact e.calls_stepCall_of_ne hi _

theorem step_keeping {source : Instant → S → α ⊕ Notification} {n : Notification}
    {f : Except Fault Notification → α} (h : e.calls[place]? = some (.keeping source f))
    (hn : source e.hall.now e.hall.world.store = .inr n) :
    (e.step (.call place)).hall =
      { e.hall with world.store := (Service.keep n e.hall.now e.hall.world.store).2 } ∧
    (e.step (.call place)).calls[place]? =
      some (match (Service.keep n e.hall.now e.hall.world.store).1 with
        | .error why => .over (f (.error why))
        | .ok m => .telling m (f (.ok m))) := by
  have hlt : place < e.calls.length := (List.getElem?_eq_some_iff.1 h).1
  simp only [step, h, stepCall, hn, Hall.onStore]
  cases hk : Service.keep n e.hall.now e.hall.world.store with
  | mk r s' => cases r <;> exact ⟨rfl, List.getElem?_set_self hlt⟩

theorem step_telling {m : Notification} {a : α} (h : e.calls[place]? = some (.telling m a)) :
    (e.step (.call place)).hall = e.hall.tell m ∧
    (e.step (.call place)).calls[place]? = some (.over a) := by
  have hlt : place < e.calls.length := (List.getElem?_eq_some_iff.1 h).1
  simp only [step, h, stepCall]
  exact ⟨rfl, List.getElem?_set_self hlt⟩

/-- How a call to queue `n` goes, with steps of others between its two. -/
structure Queues (e : Engine S σ α) (place : Nat) (n : Notification)
    (f : Except Fault Notification → α) (between : List Task) : Prop where
  /-- At first it changes the store, and nobody hears of it. -/
  stores : (e.step (.call place)).hall =
    { e.hall with world.store := (Service.keep n e.hall.now e.hall.world.store).2 }
  refused : ∀ why, (Service.keep n e.hall.now e.hall.world.store).1 = .error why →
    ((e.step (.call place)).run between).calls[place]? = some (.over (f (.error why)))
  /-- Those that are registered at last hear of it then, and the store stays as it is. -/
  told : ∀ m, (Service.keep n e.hall.now e.hall.world.store).1 = .ok m →
    let before := (e.step (.call place)).run between
    let after := before.step (.call place)
    after.hall.world.store = before.hall.world.store ∧
      (after.hall.world.outside, after.hall.bell) =
        Listener.tellAll before.hall.service.listeners.toList m (before.hall.world.outside,
          before.hall.bell) ∧
      after.calls[place]? = some (.over (f (.ok m)))

theorem queues {source : Instant → S → α ⊕ Notification} {n : Notification}
    {f : Except Fault Notification → α} {between : List Task}
    (h : e.calls[place]? = some (.keeping source f))
    (hn : source e.hall.now e.hall.world.store = .inr n) (apart : .call place ∉ between) :
    e.Queues place n f between := by
  obtain ⟨stores, pending⟩ := step_keeping h hn
  refine ⟨stores, fun why hk => ?_, fun m hk => ?_⟩
  · rw [calls_run_of_not_mem _ apart, pending, hk]
  · intro before after
    have waits : before.calls[place]? = some (.telling m (f (.ok m))) := by
      rw [calls_run_of_not_mem _ apart, pending, hk]
    obtain ⟨tells, ends⟩ := step_telling waits
    have tells : after.hall = before.hall.tell m := tells
    rw [tells]
    exact ⟨rfl, rfl, ends⟩

end Engine

/-- An enqueue that succeeds adds one record, under a number that was never given before, with all
that it was called with but its state: queued, due and without failures. Every listener hears of
that once, in order. One that fails leaves all as it was, and nobody hears of it. To ask for a
confirmation is to enqueue with another confirmation. The engine stores first, and then tells those
who are there then, whatever others do between the two. -/
theorem Service.enters_at_once [Objections] {σ τ α : Type} :
    Enters MemoryStore.empty MemoryStore.Adds (fun _ => Notification.IsStored) σ τ ∧
    Enters Table.empty Table.Adds Table.Refuses σ τ ∧
    ∀ (S : Type) [Store S],
      (∀ (sv : Service S σ τ) (n : Notification) (key : String) (now : Instant) (s : S) (t : τ),
        sv.confirm n key now s t = sv.enqueue { n with confirmation := some ⟨key, now⟩ } now s t) ∧
      ∀ (e : Engine S σ α) (place : Nat) (source : Instant → S → α ⊕ Notification)
        (n : Notification) (f : Except Fault Notification → α) (between : List Task),
        e.calls[place]? = some (.keeping source f) → source e.hall.now e.hall.world.store = .inr n →
        .call place ∉ between → e.Queues place n f between :=
  ⟨MemoryStore.enters σ τ, Table.enters σ τ, fun _ _ => ⟨fun _ _ _ _ _ _ => rfl,
    fun _ _ _ _ _ _ => Engine.queues⟩⟩

theorem Service.enters_at_once_of_two :
    let listener (h : Hearing) : Listener Notification Nat := ⟨fun _ k => (h, k + 1)⟩
    let sv : Service Table Unit Nat :=
      ⟨.empty, .ofList [listener .panicked, listener .done], .empty⟩
    let ann : Notification :=
      { Notification.create "ann" "news" .epoch with
        confirmation := some ⟨"key", .epoch⟩
        push := ⟨.undeliverable, .epoch, 3, some "gone"⟩ }
    let t := Request.run Table.empty [.save ann]
    (∃ m t', sv.noted.enqueue ann .epoch Table.empty (0, []) = (.ok m, t', 2, [(0, m), (1, m)]) ∧
      Table.empty.Adds .epoch m t' ∧ m.push = .queuedAt .epoch) ∧
    (∃ f, sv.noted.enqueue ann .epoch t (0, []) = (.error f, t, 0, []) ∧ t.HasKeyOf ann) := by
  intro listener sv ann t
  obtain ⟨-, enters, -⟩ := enters_at_once (σ := Unit) (τ := Nat) (α := Unit)
  constructor
  · obtain ⟨r, t', k, heard, -, henq, hnoted, entered, -⟩ := enters sv [] ann .epoch 0
    obtain rfl : 2 = k := congrArg (·.2.2) henq
    cases entered with
    | stored unsaved same added => exact ⟨_, t', hnoted, added, by rw [same]; rfl⟩
    | refused fault =>
      rcases fault with ⟨_, hid, _⟩ | ⟨_, ⟨_, _, _, hrow, _⟩, _⟩
      · cases hid
      · cases hrow
  · obtain ⟨r, t', k, heard, hkeep, henq, hnoted, entered, -⟩ := enters sv [.save ann] ann .epoch 0
    have hk : (sv.enqueue ann .epoch t 0).2.2 = 0 := by decide +kernel
    have hr : (keep ann .epoch t).1 = .error (.database .uniqueViolation) := by decide +kernel
    obtain rfl : k = 0 := (congrArg (·.2.2) henq).symm.trans hk
    cases entered with
    | stored => cases hr.symm.trans (congrArg Prod.fst hkeep)
    | refused fault =>
      rcases fault with ⟨_, hid, _⟩ | ⟨_, taken, _⟩
      · cases hid
      · exact ⟨_, hnoted, taken⟩

end Herald
