import Herald.Hall
/-!
The engine at work: its workers and the calls of its users are tasks, which take turns step by
step. Any order of steps is possible; the engine's own goes on with a task until that gives way or
has to wait. Tasks that gave way line up again when nobody else can go on, the latest first.
-/

set_option autoImplicit false

namespace Herald

inductive Task where
  | worker (place : Nat)
  | call (place : Nat)
  deriving DecidableEq, Repr

/-- A call to the engine, by how far it has come. -/
inductive Call (S σ α : Type) where
  /-- Done in one step. -/
  | once (f : Hall S σ → α × Hall S σ)
  /-- A notification is to be queued, if there is one. -/
  | keeping (source : Instant → S → α ⊕ Notification) (f : Except Fault Notification → α)
  /-- It is, and the listeners are to hear of it. -/
  | telling (n : Notification) (a : α)
  | delivery (d : Delivery S σ α)
  | starting (c : StartCall) (f : Hall S σ → α)
  /-- The pool is to stop, and something to be done after that. -/
  | stopping (c : StopCall) (f : Hall S σ → α × Hall S σ)
  | over (a : α)

structure Engine (S σ α : Type) where
  hall : Hall S σ
  locks : KeyLock Task Int
  workers : List (Worker S σ)
  calls : List (Call S σ α)
  /-- The tasks that can go on, in the order of their turns. -/
  ready : List Task
  /-- Those that gave way, the latest first. -/
  deferred : List Task
  /-- The call was made alone: it goes before all that line up with it. -/
  isLone : Bool

namespace Call

variable {S σ α : Type}

def answer? : Call S σ α → Option α
  | .over a => some a
  | .delivery d => d.answer?
  | _ => none

def isOver (c : Call S σ α) : Bool := c.answer?.isSome

def isPausing : Call S σ α → Bool
  | .delivery d => d.isPausing
  | _ => false

end Call

namespace Engine

variable {S σ α : Type}

def ofHall (hall : Hall S σ) : Engine S σ α := ⟨hall, .empty, [], [], [], [], false⟩

variable [Store S]

def canStepCall (e : Engine S σ α) (place : Nat) : Call S σ α → Bool
  | .delivery d => d.canStep (Task.call place) e.locks
  | .stopping (.waiting hired) _ => (e.workers.take hired).all Worker.isStopped
  | .over _ => false
  | _ => true

def canStep (e : Engine S σ α) : Task → Bool
  | .worker i =>
    (e.workers[i]?).any fun w => w.canStep i (Task.worker i) e.hall.shift e.hall.bell e.locks
  | .call i => (e.calls[i]?).any (e.canStepCall i)

def isPausing (e : Engine S σ α) : Task → Bool
  | .worker i => (e.workers[i]?).any Worker.isPausing
  | .call i => (e.calls[i]?).any Call.isPausing

def setCall (e : Engine S σ α) (place : Nat) (c : Call S σ α) : Engine S σ α :=
  { e with calls := e.calls.set place c }

def finishCall (e : Engine S σ α) (place : Nat) (f : Hall S σ → α × Hall S σ) : Engine S σ α :=
  let (a, hall) := f e.hall
  { e with hall }.setCall place (.over a)

def stepCall (e : Engine S σ α) (place : Nat) : Call S σ α → Engine S σ α
  | .once f => e.finishCall place f
  | .keeping source f =>
    match source e.hall.now e.hall.world.store with
    | .inl a => e.setCall place (.over a)
    | .inr n =>
      match e.hall.onStore (Service.keep n e.hall.now) with
      | (.error why, hall) => { e with hall }.setCall place (.over (f (.error why)))
      | (.ok n, hall) => { e with hall }.setCall place (.telling n (f (.ok n)))
  | .telling n a => { e with hall := e.hall.tell n }.setCall place (.over a)
  | .delivery d =>
    let (d, locks, world) := d.step e.hall.dispatcher (Task.call place)
      e.hall.now e.locks e.hall.world
    { e with locks, hall.world := world }.setCall place (.delivery d)
  | .starting .returned f => e.setCall place (.over (f e.hall))
  | .starting c f =>
    let (c, shift, workers) := c.step e.hall.workerCount e.hall.shift e.workers
    { e with workers, hall.shift := shift }.setCall place (.starting c f)
  | .stopping .returned f => e.finishCall place f
  | .stopping c f =>
    let (c, shift) := c.step e.hall.shift e.workers
    { e with hall.shift := shift }.setCall place (.stopping c f)
  | .over _ => e

def stepWorker (e : Engine S σ α) (place : Nat) (w : Worker S σ) : Engine S σ α :=
  let (w, bell, locks, world) :=
    w.step e.hall.dispatcher place (Task.worker place)
      e.hall.now e.hall.shift e.hall.bell e.locks e.hall.world
  { e with workers := e.workers.set place w, locks, hall.bell := bell, hall.world := world }

def step (e : Engine S σ α) : Task → Engine S σ α
  | .worker i =>
    match e.workers[i]? with
    | none => e
    | some w => e.stepWorker i w
  | .call i =>
    match e.calls[i]? with
    | none => e
    | some c => e.stepCall i c

def run (e : Engine S σ α) (order : List Task) : Engine S σ α := order.foldl step e

def tasks (e : Engine S σ α) : List Task :=
  (List.range e.workers.length).map .worker ++ (List.range e.calls.length).map .call

/-- Whether the task goes on only when nobody else is ready. -/
def isAside (e : Engine S σ α) : Task → Bool
  | .worker _ => false
  | .call _ => e.isLone

/-- Tasks that have become able to go on line up behind the others. -/
def lineUp (e : Engine S σ α) (ready : List Task) : Engine S σ α :=
  { e with ready := ready ++ e.tasks.filter fun t =>
      e.canStep t && !ready.contains t && !e.deferred.contains t && !e.isAside t }

/-- A call made alone lines up, and behind it those that gave way. -/
def gather (e : Engine S σ α) : Engine S σ α :=
  let first := e.tasks.filter fun t => e.isAside t && e.canStep t
  { e with ready := first ++ e.deferred.filter (!first.contains ·), deferred := [] }

/-- The first task in turn takes a step, and keeps its turn unless it gives way or cannot go on. -/
def turn (e : Engine S σ α) : Engine S σ α :=
  match e.ready with
  | [] => e.gather
  | t :: ts =>
    let pausing := e.isPausing t
    let e := e.step t
    if !e.canStep t then e.lineUp ts
    else if pausing then { e with deferred := t :: e.deferred }.lineUp ts
    else e.lineUp (t :: ts)

def isIdle (e : Engine S σ α) : Bool := e.ready.isEmpty && e.gather.ready.isEmpty

/-- So many turns at most, or until a condition is met, or nothing can go on. -/
def work (finished : Engine S σ α → Bool) : Nat → Engine S σ α → Engine S σ α
  | 0, e => e
  | fuel + 1, e => if finished e || e.isIdle then e else work finished fuel e.turn

def settle (fuel : Nat) (e : Engine S σ α) : Engine S σ α := work (fun _ => false) fuel e

def dropCalls (e : Engine S σ α) : List (Option α) × Engine S σ α :=
  let isWorker : Task → Bool
    | .worker _ => true
    | .call _ => false
  (e.calls.map Call.answer?,
    { e with
      calls := [], ready := e.ready.filter isWorker, deferred :=
        e.deferred.filter isWorker, isLone := false })

def haveReturned (e : Engine S σ α) : Bool := e.calls.all Call.isOver

/-- One call, which goes before all else, and after which nobody else goes on. -/
def call (fuel : Nat) (c : Call S σ α) (e : Engine S σ α) : Option α × Engine S σ α :=
  let e := { e with calls := [c], ready := Task.call 0 :: e.ready, isLone := true }
  let (answers, e) := (work haveReturned fuel e).dropCalls
  (answers.head?.join, e)

/-- Several calls side by side, begun in this order; those that are ready when the last one returns
still have their turns. -/
def callAll (fuel : Nat) (cs : List (Call S σ α)) (e : Engine S σ α) :
    List (Option α) × Engine S σ α :=
  let e := { e with calls := cs, ready := e.ready ++ (List.range cs.length).map Task.call }
  let (answers, e) := (work (fun e => e.ready.isEmpty && e.haveReturned) fuel e).dropCalls
  (answers, e.gather)

end Engine

end Herald
