import Herald.Channel
import Herald.Store
import Herald.Json.Printer
/-!
The feed: a user's latest notifications as one document, for those who know the user's secret.
-/

set_option autoImplicit false

namespace Herald.Feed

def id : String := "feed"

def secretKey : Key .text := ⟨"secret", by decide⟩

def amountKey : Key .integer := ⟨"amount", by decide⟩

def defaultAmount : Int64 := 25

def maxAmount : Nat := 100

def defaults : ChannelPreferences := { params := Bag.empty.set amountKey defaultAmount }

def preferencesFor (p : Preferences) : ChannelPreferences :=
  match p.channel? id with
  | some c => c.channel
  | none => defaults

def clamp (i : Int64) : Nat := max 1 (min i.toInt.toNat maxAmount)

/-- How many notifications to serve: as the request says, else as the preferences say. -/
def amount (request stored : Bag) : Nat :=
  clamp (((request.get amountKey).or (stored.get amountKey)).getD defaultAmount)

structure Entry where
  notification : Notification
  message : Message
  deriving DecidableEq, Repr

def Entry.encode (e : Entry) : Json :=
  .object [("id", .ofOption .ofInt e.notification.id),
    ("template_key", .text e.notification.templateKey),
    ("created_at", .text e.notification.createdAt.toText), ("subject", .text e.message.subject),
    ("body", .text e.message.body)]

def document (user : String) (entries : List Entry) : Json :=
  .object [("channel", .text id), ("user_id", .text user),
    ("entries", .array (entries.map Entry.encode))]

def entryFor? (produce : Producer) (p : Preferences) (n : Notification) : Option Entry :=
  match produce n p (preferencesFor p) with
  | .ok d => some ⟨n, d.message⟩
  | .error _ => none

def entries (produce : Producer) (p : Preferences) (ns : List Notification) : List Entry :=
  ns.filterMap (entryFor? produce p)

def isConfigured (b : Bag) : Bool := (b.get secretKey).any (· ≠ "")

variable {S : Type} [Store S]

def serve (audiences : List Audience) (produce : Producer) (s : S) (user : String) (request : Bag) :
    Except PullError String :=
  match Store.getPreferences user s with
  | .error f => .error (.ofFault f)
  | .ok none => .error (.unknownUser user)
  | .ok (some p) =>
    match Store.getRecent user audiences 0 (amount request (preferencesFor p).params) s with
    | .error f => .error (.ofFault f)
    | .ok ns =>
      match entries produce p ns with
      | [] => .error (.noContent user)
      | es => .ok (document user es).toText

/-- The request names the secret that the user's preferences for the feed hold. -/
def isAuthorized (s : S) (user : String) (request : Bag) : Except PullError Bool :=
  match request.get secretKey with
  | none | some "" => .ok false
  | some secret =>
    match Store.getPreferences user s with
    | .error f => .error (.ofFault f)
    | .ok none => .ok false
    | .ok (some p) => .ok (((p.channel? id).bind fun c => c.params.get secretKey) == some secret)

def channel {σ : Type} (audiences : List Audience) : PullChannel S σ where
  id
  accepts a := audiences.contains a
  isConfigured
  defaults := some defaults
  isAuthorized
  pull produce s user request o := (serve audiences produce s user request, o)

end Herald.Feed
