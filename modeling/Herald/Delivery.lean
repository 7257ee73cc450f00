import Herald.Dispatcher
import Herald.KeyLock
/-!
Errands step by step, as they go when several are under way: the key is taken, the store is read,
channel after channel is pushed, the outcome is written down, and the key is let go. Between two
steps of one errand there may be steps of others.
-/

set_option autoImplicit false

namespace Herald

/-- A push that has begun; it still gives way so many times. -/
structure Push (σ : Type) where
  channel : PushChannel σ
  dispatch : Dispatch
  pauses : Nat

/-- An attempt under way: the report of the channels visited, the channel that is being pushed, and
the channels still to visit. -/
structure Attempt (σ : Type) where
  fanOut : FanOut σ
  notification : Notification
  preferences : Preferences
  report : Report
  push : Option (Push σ)
  remaining : List (PushChannel σ)

namespace Attempt

variable {σ : Type}

def begin (f : FanOut σ) (n : Notification) (p : Preferences) : Attempt σ :=
  ⟨f, n, p, .empty, none, f.candidates n⟩

def visit (a : Attempt σ) (c : PushChannel σ) (s : σ) : Attempt σ × σ :=
  match a.fanOut.verdict a.notification a.preferences c with
  | .unrendered e => ({ a with report := a.report.addError c.id e }, s)
  | .refuse e =>
    let (r, s) := a.fanOut.record a.notification c (.error e) a.report s
    ({ a with report := r }, s)
  | .offer d => ({ a with push := some ⟨c, d, c.pauses⟩ }, c.start a.notification d s)

def conclude (a : Attempt σ) (p : Push σ) (s : σ) : Attempt σ × σ :=
  let (answer, s) := p.channel.finish a.notification p.dispatch s
  let (r, s) := a.fanOut.record a.notification p.channel answer a.report s
  ({ a with report := r, push := none }, s)

def isPausing (a : Attempt σ) : Bool := a.push.any fun p => p.pauses ≠ 0

def step (a : Attempt σ) (s : σ) : (Attempt σ ⊕ Outcome) × σ :=
  match a.push with
  | some p =>
    match p.pauses with
    | pauses + 1 => (.inl { a with push := some { p with pauses } }, s)
    | 0 =>
      let (a, s) := a.conclude p s
      (.inl a, s)
  | none =>
    match a.remaining with
    | [] => (.inr (.ofReport a.report), s)
    | c :: cs =>
      let (a, s) := { a with remaining := cs }.visit c s
      (.inl a, s)

end Attempt

/-- How far a call has come that ends in an answer of type `α`. -/
inductive Delivery (S σ α : Type) where
  /-- Looks at the store for its errand. -/
  | opening (f : Instant → S → (α ⊕ Errand S α) × S)
  /-- Is about to claim its key. -/
  | claiming (e : Errand S α)
  | awaiting (e : Errand S α)
  | starting (e : Errand S α)
  | attempting (e : Errand S α) (a : Attempt σ)
  | finishing (e : Errand S α) (n : Notification) (o : Outcome)
  /-- Is about to let its key go. -/
  | releasing (a : α)
  | evicting (a : α)
  | done (a : α)

namespace Delivery

variable {S σ α τ : Type}

/-- An errand with a key begins with the claim on it. -/
def ofErrand (e : Errand S α) : Delivery S σ α :=
  match e.key with
  | some _ => .claiming e
  | none => .starting e

/-- What is left to do when there is an answer. -/
def leave (e : Errand S α) (a : α) : Delivery S σ α :=
  match e.key with
  | some _ => .releasing a
  | none => .done a

def answer? : Delivery S σ α → Option α
  | .done a => some a
  | _ => none

def pushing? : Delivery S σ α → Option Notification
  | .attempting _ a => a.push.map fun _ => a.notification
  | _ => none

def isPausing : Delivery S σ α → Bool
  | .attempting _ a => a.isPausing
  | _ => false

section Steps

variable [Store S] [DecidableEq τ]

/-- Whether the delivery of this task has a next step. A key goes to those who wait for it in the
order of their claims. -/
def canStep (task : τ) (l : KeyLock τ Int) : Delivery S σ α → Bool
  | .done _ => false
  | .awaiting _ =>
    match l.claim? task with
    | none => false
    | some c =>
      !l.isHeld c.handle &&
        (l.claims.find? fun d => d.handle == c.handle && d.phase == .waiting).any (·.task = task)
  | _ => true

/-- One step of the delivery of this task. One that awaits its key goes on only when nobody holds
that. -/
def step (d : Dispatcher σ) (task : τ) (now : Instant) (l : KeyLock τ Int) (w : World S σ) :
    Delivery S σ α → Delivery S σ α × KeyLock τ Int × World S σ
  | .opening f =>
    match f now w.store with
    | (.inl a, s) => (.done a, l, { w with store := s })
    | (.inr e, s) => (ofErrand e, l, { w with store := s })
  | .claiming e =>
    match e.key with
    | some key => (.awaiting e, l.fetch task key, w)
    | none => (.starting e, l, w)
  | .awaiting e =>
    match l.enter? task with
    | some l => (.starting e, l, w)
    | none => (.awaiting e, l, w)
  | .starting e =>
    match e.start now w.store with
    | .inl a => (leave e a, l, w)
    | .inr n =>
      match Dispatcher.prepare n w.store with
      | .error o => (.finishing e n o, l, w)
      | .ok p => (.attempting e (.begin (d.fanOut e.ignoresFrequency) n p), l, w)
  | .attempting e a =>
    match a.step w.outside with
    | (.inl a, s) => (.attempting e a, l, { w with outside := s })
    | (.inr o, s) => (.finishing e a.notification o, l, { w with outside := s })
  | .finishing e n o =>
    let (a, s) := e.finish d.config.retry now n o w.store
    (leave e a, l, { w with store := s })
  | .releasing a => (.evicting a, l.release task, w)
  | .evicting a => (.done a, l.evict task, w)
  | .done a => (.done a, l, w)

end Steps

section Calls

variable [Store S]

def dispatchNow (n : Notification) : Delivery S σ (Except Fault Notification) :=
  ofErrand (.dispatch n)

def processQueued (n : Notification) : Delivery S σ (Except Fault Processing) :=
  match Errand.process n with
  | .error e => .done (.error e)
  | .ok e => ofErrand e

def processNext : Delivery S σ (Except Fault (Option Processing)) :=
  .opening fun now s =>
    match Store.getNext now s with
    | (.error e, s) => (.inl (.error e), s)
    | (.ok none, s) => (.inl (.ok none), s)
    | (.ok (some n), s) =>
      match Errand.process n with
      | .error e => (.inl (.error e), s)
      | .ok e => (.inr (e.map (·.map some)), s)

end Calls

def map {β : Type} (f : α → β) : Delivery S σ α → Delivery S σ β
  | .opening g => .opening fun now s =>
    match g now s with
    | (.inl a, s) => (.inl (f a), s)
    | (.inr e, s) => (.inr (e.map f), s)
  | .claiming e => .claiming (e.map f)
  | .awaiting e => .awaiting (e.map f)
  | .starting e => .starting (e.map f)
  | .attempting e a => .attempting (e.map f) a
  | .finishing e n o => .finishing (e.map f) n o
  | .releasing a => .releasing (f a)
  | .evicting a => .evicting (f a)
  | .done a => .done (f a)

end Delivery

/-- Deliveries under way, each the task of its place. -/
structure Traffic (S σ α : Type) where
  dispatcher : Dispatcher σ
  now : Instant
  locks : KeyLock Nat Int
  world : World S σ
  deliveries : List (Delivery S σ α)

namespace Traffic

variable {S σ α : Type} [Store S]

def step (t : Traffic S σ α) (place : Nat) : Traffic S σ α :=
  match t.deliveries[place]? with
  | none => t
  | some d =>
    let (d, locks, world) := d.step t.dispatcher place t.now t.locks t.world
    { t with locks, world, deliveries := t.deliveries.set place d }

def run (t : Traffic S σ α) (places : List Nat) : Traffic S σ α := places.foldl step t

end Traffic

end Herald
