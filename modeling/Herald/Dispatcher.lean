import Herald.FanOut
import Herald.Roster
import Herald.Retry
import Herald.Config
import Herald.Store
/-!
Delivery of notifications from a store. A caller may want one delivered at once, or the next attempt
of one that is queued. Either is an errand: something to find out first, then perhaps an attempt,
and something to write down after it.
-/

set_option autoImplicit false

namespace Herald

structure World (S σ : Type) where
  store : S
  outside : σ

structure Dispatcher (σ : Type) where
  channels : Roster σ
  produce : Producer
  listeners : Registry Mark (Listener ChannelFailure σ)
  config : DispatchConfig

/-- What one call does about one notification, with an answer of type `α`. Errands of one key do
not overlap. -/
structure Errand (S α : Type) where
  key : Option Int
  ignoresFrequency : Bool
  /-- The answer, or the notification to attempt. -/
  start : Instant → S → α ⊕ Notification
  /-- Writes down what came of the attempt. -/
  finish : RetryPolicy → Instant → Notification → Outcome → S → α × S

inductive Processing where
  /-- It was gone, in a final state or not yet due. -/
  | skipped
  | processed (result : PushResult)
  deriving DecidableEq, Repr

namespace Errand

variable {S α β : Type}

def map (f : α → β) (e : Errand S α) : Errand S β where
  key := e.key
  ignoresFrequency := e.ignoresFrequency
  start now s :=
    match e.start now s with
    | .inl a => .inl (f a)
    | .inr n => .inr n
  finish policy now n o s :=
    let (a, s) := e.finish policy now n o s
    (f a, s)

variable [Store S]

def failure (n : Notification) (o : Outcome) : Fault := .undelivered (.failed o.result n o.message)

/-- Delivers a notification that is not stored, and stores it if it is delivered. -/
def fresh (n : Notification) : Errand S (Except Fault Notification) where
  key := none
  ignoresFrequency := true
  start _ _ := if n.push.state.isTerminal
    then .inl (.error (.invalid (.terminal n.push.state))) else .inr n
  finish policy now n o s :=
    if o.isSuccess then
      match n.recordAttempt o policy now with
      | .error e => (.error e, s)
      | .ok m => Store.saved m s
    else (.error (failure n o), s)

/-- Delivers a stored notification, and deletes it if it is not delivered. -/
def stored (id : Int) : Errand S (Except Fault Notification) where
  key := some id
  ignoresFrequency := true
  start _ s :=
    match Store.get id s with
    | .error e => .inl (.error e)
    | .ok none => .inl (.error (.noNotification id))
    | .ok (some n) =>
      match n.push.state with
      | .pushed => .inl (.ok n)
      | .undeliverable => .inl (.error (.undelivered (.undeliverable n)))
      | .queued => .inr n
  finish policy now n o s :=
    if o.isSuccess then
      match n.recordAttempt o policy now with
      | .error e => (.error e, s)
      | .ok m =>
        match Store.update m s with
        | (.error e, s) => (.error e, s)
        | (.ok _, s) => (.ok m, s)
    else
      match Store.delete id s with
      | (.error e, s) => (.error e, s)
      | (.ok _, s) => (.error (failure n o), s)

/-- Of a notification to be delivered only its number counts, if it has one. -/
def dispatch (n : Notification) : Errand S (Except Fault Notification) :=
  match n.id with
  | none => fresh n
  | some id => stored id

/-- Makes the next attempt of a stored notification if it is still due. -/
def queued (id : Int) : Errand S (Except Fault Processing) where
  key := some id
  ignoresFrequency := false
  start now s :=
    match Store.get id s with
    | .error e => .inl (.error e)
    | .ok none => .inl (.ok .skipped)
    | .ok (some n) => if n.isDue now then .inr n else .inl (.ok .skipped)
  finish policy now n o s :=
    match n.recordAttempt o policy now with
    | .error e => (.error e, s)
    | .ok m =>
      match Store.update m s with
      | (.error e, s) => (.error e, s)
      | (.ok _, s) => (.ok (.processed o.result), s)

/-- An errand about a notification without a number has its answer already. -/
def process (n : Notification) : Except Fault (Errand S (Except Fault Processing)) :=
  match n.id with
  | none => .error (.invalid .unsavedProcess)
  | some id => .ok (queued id)

end Errand

namespace Dispatcher

variable {S σ α : Type}

structure Parts (S σ : Type) where
  store : Option S
  hasPreferences : Bool
  produce : Option Producer
  channels : List (PushChannel σ)
  listeners : List (Listener ChannelFailure σ)
  config : DispatchConfig

def ofParts (p : Parts S σ) : Except Fault (Dispatcher σ × S) :=
  if p.channels.isEmpty then .error (.misconfigured .noChannels)
  else match p.store with
    | none => .error (.misconfigured .noNotificationStore)
    | some s =>
      if !p.hasPreferences then .error (.misconfigured .noPreferencesStore)
      else match p.produce with
        | none => .error (.misconfigured .noProducer)
        | some produce => .ok (⟨p.channels.foldl Roster.enlist .empty, produce,
            .ofList p.listeners, p.config⟩, s)

def fanOut (d : Dispatcher σ) (ignoreFrequency : Bool) : FanOut σ :=
  ⟨d.channels.toList, d.produce, d.listeners.toList, ignoreFrequency⟩

variable [Store S]

def preferencesFor? (n : Notification) (s : S) : Except Fault (Option Preferences) :=
  match Store.getPreferences n.user s with
  | .ok none => .ok (if n.forced?.isSome then some { user := n.user } else none)
  | r => r

def noPreferences (n : Notification) (f : Fault) : Outcome :=
  .unreported .temporaryError ("cannot load preferences for " ++ n.user ++ ": " ++ f.message)

def unknownUser (n : Notification) : Outcome :=
  .unreported .persistentError ("unknown user " ++ n.user)

/-- The preferences to attempt the notification with, or what the attempt comes to without. -/
def prepare (n : Notification) (s : S) : Except Outcome Preferences :=
  match preferencesFor? n s with
  | .error f => .error (noPreferences n f)
  | .ok none => .error (unknownUser n)
  | .ok (some p) => .ok p

def attempt (d : Dispatcher σ) (n : Notification) (ignoreFrequency : Bool) (w : World S σ) :
    Outcome × World S σ :=
  match prepare n w.store with
  | .error o => (o, w)
  | .ok p =>
    let (o, s) := (d.fanOut ignoreFrequency).run n p w.outside
    (o, { w with outside := s })

def perform (d : Dispatcher σ) (e : Errand S α) (now : Instant) (w : World S σ) : α × World S σ :=
  match e.start now w.store with
  | .inl a => (a, w)
  | .inr n =>
    let (o, w) := d.attempt n e.ignoresFrequency w
    let (a, s) := e.finish d.config.retry now n o w.store
    (a, { w with store := s })

def dispatchNow (d : Dispatcher σ) (n : Notification) (now : Instant) (w : World S σ) :
    Except Fault Notification × World S σ :=
  d.perform (.dispatch n) now w

def processQueued (d : Dispatcher σ) (n : Notification) (now : Instant) (w : World S σ) :
    Except Fault Processing × World S σ :=
  match Errand.process n with
  | .error e => (.error e, w)
  | .ok e => d.perform e now w

def processNext (d : Dispatcher σ) (now : Instant) (w : World S σ) :
    Except Fault (Option Processing) × World S σ :=
  match Store.getNext now w.store with
  | (.error e, s) => (.error e, { w with store := s })
  | (.ok none, s) => (.ok none, { w with store := s })
  | (.ok (some n), s) =>
    let (r, w) := d.processQueued n now { w with store := s }
    (r.map some, w)

end Dispatcher

end Herald
