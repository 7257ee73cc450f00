import Herald.FanOut
import Herald.Channel.Mail
/-!
A world outside that takes part by script: channels, mail clients and listeners that answer as they
are told to, and a log of what reached them.
-/

set_option autoImplicit false

namespace Herald.Rehearsal

inductive Event where
  /-- With whether another push of the same channel was under way. -/
  | push (channel : String) (n : Notification) (d : Dispatch) (overlap : Bool)
  | error (listener : String) (failure : ChannelFailure)
  | enqueued (listener : String) (n : Notification)
  | mail (client : Nat) (m : Mail)
  /-- Mail clients were put in rotation. -/
  | rotation (size : Nat)
  deriving DecidableEq, Repr

/-- The log, the latest event first, and of each performer how often it played and how many of its
pushes are under way. -/
structure Stage where
  log : List Event
  plays : Dict Nat
  underWay : Dict Nat
  deriving Repr

namespace Stage

def empty : Stage := ⟨[], .empty, .empty⟩

instance : Inhabited Stage := ⟨empty⟩

def note (s : Stage) (e : Event) : Stage := { s with log := e :: s.log }

/-- How often the performer played before, counting this time from now on. -/
def play (performer : String) (s : Stage) : Nat × Stage :=
  let n := (s.plays.get? performer).getD 0
  (n, { s with plays := s.plays.insert performer (n + 1) })

def busy (s : Stage) (performer : String) : Nat := (s.underWay.get? performer).getD 0

def enter (s : Stage) (performer : String) : Stage :=
  { s with underWay := s.underWay.insert performer (s.busy performer + 1) }

def leave (s : Stage) (performer : String) : Stage :=
  { s with underWay := s.underWay.insert performer (s.busy performer - 1) }

def takeLog (s : Stage) : List Event × Stage := (s.log.reverse, { s with log := [] })

end Stage

/-- The `n`-th answer of a script; the last one repeats. -/
def answerAt {α : Type} (script : List α) (default : α) (n : Nat) : α :=
  script.getD n (script.getLastD default)

structure ScriptedChannel where
  /-- Tells channels of one id apart. -/
  performer : String
  id : String
  accepted : List Audience
  required : List String
  defaults : Option PushPreferences
  script : List (Except PushError Unit)
  pauses : Nat

def ScriptedChannel.channel (c : ScriptedChannel) : PushChannel Stage where
  id := c.id
  accepts a := c.accepted.contains a
  isConfigured b := b.containsAll c.required
  defaults := c.defaults
  pauses := c.pauses
  start n d s := (s.note (.push c.id n d (s.busy c.performer != 0))).enter c.performer
  finish _ _ s :=
    let (turn, s) := (s.leave c.performer).play c.performer
    (answerAt c.script (.ok ()) turn, s)

structure ScriptedPull where
  performer : String
  id : String
  accepted : List Audience
  required : List String
  defaults : Option ChannelPreferences
  /-- Whether there is content. -/
  script : List Bool

/-- Content is the channel and the user; whoever is configured may have it. -/
def ScriptedPull.channel {S : Type} (c : ScriptedPull) : PullChannel S Stage where
  id := c.id
  accepts a := c.accepted.contains a
  isConfigured b := b.containsAll c.required
  defaults := c.defaults
  isAuthorized _ _ b := .ok (b.containsAll c.required)
  pull _ _ user _ s :=
    let (turn, s) := s.play c.performer
    (if answerAt c.script true turn then .ok (c.id ++ ":" ++ user)
      else .error (.notConfigured c.id), s)

def mailClient (performer : String) (index : Nat) (script : List (Except MailError Unit)) :
    MailClient Stage :=
  ⟨fun m s =>
    let (turn, s) := (s.note (.mail index m)).play performer
    (answerAt script (.ok ()) turn, s)⟩

private def outcomeOf (panics : Bool) : Hearing := if panics then .panicked else .done

def errorListener (name : String) (panics : Bool) : Listener ChannelFailure Stage :=
  ⟨fun e s => (outcomeOf panics, s.note (.error name e))⟩

def enqueueListener (name : String) (panics : Bool) : Listener Notification Stage :=
  ⟨fun n s => (outcomeOf panics, s.note (.enqueued name n))⟩

end Herald.Rehearsal
