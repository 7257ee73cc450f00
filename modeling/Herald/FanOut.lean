import Herald.Channel
/-!
One attempt: the notification is offered to its channels one after another. A channel stands behind
gates, and the first that is shut decides what the report says of it.
-/

set_option autoImplicit false

namespace Herald

structure FanOut (σ : Type) where
  channels : List (PushChannel σ)
  produce : Producer
  listeners : List (Listener ChannelFailure σ)
  ignoreFrequency : Bool

namespace FanOut

variable {σ : Type}

def candidates (f : FanOut σ) (n : Notification) : List (PushChannel σ) :=
  match n.forced? with
  | some id => (f.channels.find? fun c => c.id == id).toList
  | none => f.channels

theorem candidates_sublist (f : FanOut σ) (n : Notification) :
    (f.candidates n).Sublist f.channels := by
  unfold candidates
  split
  · next id _ =>
    cases hf : f.channels.find? fun c => c.id == id with
    | none => simp
    | some c => simpa using List.mem_of_find?_eq_some hf
  · exact .refl _

inductive Verdict where
  | offer (d : Dispatch)
  | refuse (e : PushError)
  /-- Listeners are not told of it. -/
  | unrendered (e : PushError)
  deriving DecidableEq, Repr

def notConfigured : PushError := .configuration "channel not configured for user"

def notAccepted (a : Audience) : PushError :=
  ⟨.notApplicable, "channel does not accept " ++ Named.name a ++ " notifications"⟩

def notInstant (f : Frequency) : PushError := ⟨.frequencyMismatch, "frequency is " ++ Named.name f⟩

def preferencesFor (p : Preferences) (c : PushChannel σ) : Option PushPreferences :=
  (p.channel? c.id).or c.defaults

def verdict (f : FanOut σ) (n : Notification) (p : Preferences) (c : PushChannel σ) : Verdict :=
  match preferencesFor p c with
  | none => .refuse notConfigured
  | some cp =>
    if !c.accepts n.audience then .refuse (notAccepted n.audience)
    else match f.produce n p cp.channel with
      | .error e => .unrendered ⟨.render, e.message⟩
      | .ok d =>
        if !c.isConfigured d.params then .refuse notConfigured
        else if !f.ignoreFrequency && cp.frequency != .instant
          then .refuse (notInstant cp.frequency)
        else .offer d

/-- Listeners hear of a failed push before the report does. -/
def tell (f : FanOut σ) (n : Notification) (c : PushChannel σ) (e : PushError) (s : σ) : σ :=
  Listener.tellAll f.listeners ⟨n, c.id, e⟩ s

/-- The channel's answer goes to the listeners, if it is a failure, and into the report. -/
def record (f : FanOut σ) (n : Notification) (c : PushChannel σ) (answer : Except PushError Unit)
    (r : Report) (s : σ) : Report × σ :=
  match answer with
  | .ok _ => (r.addSuccess c.id, s)
  | .error e => (r.addError c.id e, f.tell n c e s)

def visit (f : FanOut σ) (n : Notification) (p : Preferences) (c : PushChannel σ)
    (r : Report) (s : σ) : Report × σ :=
  match f.verdict n p c with
  | .unrendered e => (r.addError c.id e, s)
  | .refuse e => f.record n c (.error e) r s
  | .offer d =>
    let (answer, s) := c.push n d s
    f.record n c answer r s

def visitAll (f : FanOut σ) (n : Notification) (p : Preferences) :
    List (PushChannel σ) → Report → σ → Report × σ
  | [], r, s => (r, s)
  | c :: cs, r, s =>
    let (r, s) := f.visit n p c r s
    f.visitAll n p cs r s

def run (f : FanOut σ) (n : Notification) (p : Preferences) (s : σ) : Outcome × σ :=
  let (r, s) := f.visitAll n p (f.candidates n) .empty s
  (.ofReport r, s)

end FanOut

end Herald
