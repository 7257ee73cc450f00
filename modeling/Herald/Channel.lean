import Herald.Message
import Herald.Notification
import Herald.Preferences
import Herald.Fault
import Herald.Registry
import Herald.Template
/-!
Channels and listeners, as the engine sees them: what they declare, and what they do to the world
outside, whose states are of a type `σ` that the engine knows nothing about.
-/

set_option autoImplicit false

namespace Herald

/-- Delivers on its own. A push begins, may give way to others `pauses` times, and ends with its
answer. -/
structure PushChannel (σ : Type) where
  id : String
  accepts : Audience → Bool
  isConfigured : Bag → Bool
  defaults : Option PushPreferences
  pauses : Nat
  start : Notification → Dispatch → σ → σ
  finish : Notification → Dispatch → σ → Except PushError Unit × σ

def PushChannel.push {σ : Type} (c : PushChannel σ) (n : Notification) (d : Dispatch) (s : σ) :
    Except PushError Unit × σ :=
  c.finish n d (c.start n d s)

def PushChannel.immediate {σ : Type} (id : String) (accepts : Audience → Bool)
    (isConfigured : Bag → Bool) (defaults : Option PushPreferences)
    (push : Notification → Dispatch → σ → Except PushError Unit × σ) :
    PushChannel σ :=
  ⟨id, accepts, isConfigured, defaults, 0, fun _ _ s => s, push⟩

@[simp] theorem PushChannel.push_immediate {σ : Type} (id : String) (accepts : Audience → Bool)
    (isConfigured : Bag → Bool) (defaults : Option PushPreferences)
    (push : Notification → Dispatch → σ → Except PushError Unit × σ) :
    (PushChannel.immediate id accepts isConfigured defaults push).push = push := rfl

abbrev Producer := Notification → Preferences → ChannelPreferences → Except RenderError Dispatch

structure PullChannel (S σ : Type) where
  id : String
  accepts : Audience → Bool
  isConfigured : Bag → Bool
  defaults : Option ChannelPreferences
  isAuthorized : S → String → Bag → Except PullError Bool
  pull : Producer → S → String → Bag → σ → Except PullError String × σ

inductive Hearing where
  | done
  | panicked
  deriving DecidableEq, Repr

structure Listener (ε σ : Type) where
  hear : ε → σ → Hearing × σ

namespace Listener

variable {ε σ : Type}

/-- Tells one listener after another, whatever becomes of them. -/
def tellAll (ls : List (Listener ε σ)) (e : ε) (s : σ) : σ := ls.foldl (fun s l => (l.hear e s).2) s

@[simp] theorem tellAll_nil (e : ε) (s : σ) : tellAll [] e s = s := rfl

@[simp] theorem tellAll_cons (l : Listener ε σ) (ls : List (Listener ε σ)) (e : ε) (s : σ) :
    tellAll (l :: ls) e s = tellAll ls e (l.hear e s).2 := rfl

end Listener

structure ChannelFailure where
  notification : Notification
  channel : String
  error : PushError
  deriving DecidableEq, Repr

end Herald
