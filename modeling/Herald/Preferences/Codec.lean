import Herald.Preferences
import Herald.Bag.Codec
/-!
Preferences as documents. Those of a push channel are one flat object: its channel part is read
from all members but the frequency, and these are read whole.
-/

set_option autoImplicit false

namespace Herald

open Json

namespace ChannelPreferences

def members (p : ChannelPreferences) : List (String × Json) :=
  [("version", Named.encode p.version), ("params", p.params.encode)]

def encode (p : ChannelPreferences) : Json := .object p.members

def ofFields? (loose : Bool) (room : Nat) (f : Fields) : Option ChannelPreferences := do
  return ⟨← f.withDefault "version" (Named.decode? loose) .long,
    ← f.withDefault "params" (Bag.decode? (room - 1)) .empty⟩

def decode? (room : Nat) (d : Doc) : Option ChannelPreferences := do
  ofFields? false room (← d.fields? ["version", "params"])

end ChannelPreferences

namespace PushPreferences

def encode (p : PushPreferences) : Json :=
  .object (p.channel.members ++ [("frequency", Named.encode p.frequency)])

def decode? (room : Nat) : Doc → Option PushPreferences
  | .object ms => do
    let rest := ms.filter (·.1 ≠ some "frequency")
    let f ← (Doc.object ms).fields? ["version", "params", "frequency"]
    if Doc.soundMembers (room - 1) rest then
      return ⟨← ChannelPreferences.ofFields? true room f,
        ← f.withDefault "frequency" (Named.decode? false) .instant⟩
    else none
  | _ => none

end PushPreferences

namespace Preferences

def encode (p : Preferences) : Json :=
  .object [("user_id", .text p.user), ("params", p.params.encode),
    ("channel_prefs", .ofDict PushPreferences.encode p.channels)]

def decode? (room : Nat) (d : Doc) : Option Preferences := do
  let f ← d.fields? ["user_id", "params", "channel_prefs"]
  return ⟨← f.required "user_id" Doc.text?,
    ← f.withDefault "params" (Bag.decode? (room - 1)) .empty,
    ← f.withDefault "channel_prefs" (Doc.dict? (PushPreferences.decode? (room - 2))) .empty⟩

end Preferences

end Herald
