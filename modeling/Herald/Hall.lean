import Herald.Service
import Herald.Worker
/-!
What the tasks of an engine share, and what a call can do to it in one step.
-/

set_option autoImplicit false

namespace Herald

structure Hall (S σ : Type) where
  now : Instant
  world : World S σ
  bell : Bell
  dispatcher : Dispatcher σ
  service : Service S σ (σ × Bell)
  shift : Shift
  workerCount : Nat

namespace Hall

variable {S σ α : Type}

def create (now : Instant) (w : World S σ) (d : Dispatcher σ) (sv : Service S σ (σ × Bell))
    (workerCount : Nat) : Hall S σ :=
  ⟨now, w, .quiet, d, sv, {}, workerCount⟩

def advance (nanos : Int) (h : Hall S σ) : Hall S σ :=
  { h with now := .ofNanos (h.now.toNanos + nanos) }

def onStore (f : S → α × S) (h : Hall S σ) : α × Hall S σ :=
  let (a, store) := f h.world.store
  (a, { h with world.store := store })

def wake (h : Hall S σ) : Hall S σ := { h with bell := h.bell.ring }

def setProducer (produce : Producer) (h : Hall S σ) : Hall S σ :=
  { h with dispatcher.produce := produce }

def addChannel (c : PushChannel σ) (h : Hall S σ) : Hall S σ :=
  { h with dispatcher.channels := Roster.enlist h.dispatcher.channels c }

/-- Whether there was such a channel. -/
def removeChannel (id : String) (h : Hall S σ) : Bool × Hall S σ :=
  let (was, channels) := Roster.dismiss h.dispatcher.channels id
  (was, { h with dispatcher.channels := channels })

def addErrorListener (name : String) (l : Listener ChannelFailure σ) (h : Hall S σ) : Hall S σ :=
  { h with dispatcher.listeners := h.dispatcher.listeners.add (.named name) l }

def removeErrorListener (name : String) (h : Hall S σ) : Bool × Hall S σ :=
  (h.dispatcher.listeners.contains (.named name),
    { h with dispatcher.listeners := h.dispatcher.listeners.remove (.named name) })

def addEnqueueListener (name : String) (l : Listener Notification σ) (h : Hall S σ) : Hall S σ :=
  { h with service.listeners := h.service.listeners.add (.named name) l.besideBell }

def removeEnqueueListener (name : String) (h : Hall S σ) : Bool × Hall S σ :=
  (h.service.listeners.contains (.named name),
    { h with service.listeners := h.service.listeners.remove (.named name) })

/-- Every enqueue rings the bell from now on. -/
def heedEnqueues (h : Hall S σ) : Hall S σ :=
  { h with service.listeners := h.service.listeners.add (.given 0) .ringing }

def addPullChannel (c : PullChannel S σ) (h : Hall S σ) : Hall S σ :=
  { h with service := h.service.addPullChannel c }

def removePullChannel (id : String) (h : Hall S σ) : Bool × Hall S σ :=
  let (was, service) := h.service.removePullChannel id
  (was, { h with service })

def pull (channel user : String) (request : Bag) (h : Hall S σ) :
    Except PullError String × Hall S σ :=
  let (r, world) := h.service.pull h.dispatcher.produce channel user request h.world
  (r, { h with world })

def tell (n : Notification) (h : Hall S σ) : Hall S σ :=
  let (outside, bell) := Listener.tellAll h.service.listeners.toList n (h.world.outside, h.bell)
  { h with world := { h.world with outside }, bell }

variable [Store S]

/-- What a new user starts with, put into the store if `save`. -/
def newPreferences (user : String) (save : Bool) (h : Hall S σ) :
    Except Fault Preferences × Hall S σ :=
  let p := h.service.newPreferences h.dispatcher user
  if save then
    let (r, h) := h.onStore (Service.setPreferences p)
    (r.map fun _ => p, h)
  else (.ok p, h)

def editPreferences (user : String) (f : Bag → Bag) (h : Hall S σ) :
    Except Fault (Option Preferences) × Hall S σ :=
  match Store.getPreferences user h.world.store with
  | .error e => (.error e, h)
  | .ok none => (.ok none, h)
  | .ok (some p) =>
    let p := { p with params := f p.params }
    let (r, h) := h.onStore (Service.setPreferences p)
    (r.map fun _ => some p, h)

end Hall

end Herald
