import Herald.Bag
import Herald.Named
/-!
What a user has chosen: general parameters, and for each channel how long the texts are, how often
they come, and parameters of its own.
-/

set_option autoImplicit false

namespace Herald

inductive Version where
  | long
  | short
  deriving DecidableEq, Repr

instance : Named Version where
  all := [.long, .short]
  name
    | .long => "LONG"
    | .short => "SHORT"
  complete a := by cases a <;> decide

/-- How often a channel delivers. Only what is wanted at once is pushed one by one. -/
inductive Frequency where
  | instant
  | daily
  | weekly
  | monthly
  deriving DecidableEq, Repr

instance : Named Frequency where
  all := [.instant, .daily, .weekly, .monthly]
  name
    | .instant => "INSTANT"
    | .daily => "DAILY"
    | .weekly => "WEEKLY"
    | .monthly => "MONTHLY"
  complete a := by cases a <;> decide

structure ChannelPreferences where
  version : Version := .long
  params : Bag := .empty
  deriving DecidableEq, Repr

instance : Inhabited ChannelPreferences := ⟨{}⟩

structure PushPreferences where
  channel : ChannelPreferences := {}
  frequency : Frequency := .instant
  deriving DecidableEq, Repr

instance : Inhabited PushPreferences := ⟨{}⟩

def PushPreferences.params (p : PushPreferences) : Bag := p.channel.params

structure Preferences where
  user : String
  params : Bag := .empty
  /-- By channel. -/
  channels : Dict PushPreferences := .empty
  deriving DecidableEq, Repr

def Preferences.channel? (p : Preferences) (id : String) : Option PushPreferences :=
  p.channels.get? id

end Herald
