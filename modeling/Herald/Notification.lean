import Herald.Bag
import Herald.Named
import Herald.Time.Rfc3339
/-!
Notifications: what is to be told to whom, and how far the telling has come. A notification is
queued until an attempt succeeds or none is to be made any more; the other two states are final.
-/

set_option autoImplicit false

namespace Herald

/-- Whom a notification may concern; channels declare which they accept. -/
inductive Audience where
  | everyone
  | personal
  deriving DecidableEq, Repr

instance : Named Audience where
  all := [.everyone, .personal]
  name
    | .everyone => "PUBLIC"
    | .personal => "PRIVATE"
  complete a := by cases a <;> decide

inductive PushState where
  | queued
  | pushed
  | undeliverable
  deriving DecidableEq, Repr

instance : Named PushState where
  all := [.queued, .pushed, .undeliverable]
  name
    | .queued => "QUEUED"
    | .pushed => "PUSHED"
    | .undeliverable => "UNDELIVERABLE"
  complete a := by cases a <;> decide

def PushState.isTerminal (s : PushState) : Bool := s != .queued

structure Confirmation where
  key : String
  touched : Instant
  deriving DecidableEq, Repr

/-- The date is that of the last attempt in a final state, and that of the next one before. -/
structure PushStatus where
  state : PushState
  date : Instant
  errorCount : UInt32
  errorMessage : Option String
  deriving DecidableEq, Repr

def PushStatus.queuedAt (date : Instant) : PushStatus := ⟨.queued, date, 0, none⟩

def countUp (n : UInt32) : UInt32 := if n = 4294967295 then n else n + 1

theorem min_greatest (n : UInt32) : min n.toNat 4294967295 = n.toNat :=
  Nat.min_eq_left (Nat.le_of_lt_succ n.toNat_lt)

theorem toNat_countUp (n : UInt32) : (countUp n).toNat = min (n.toNat + 1) 4294967295 := by
  simp only [countUp]
  split
  · next h => subst h; decide
  · next h =>
    have h1 := n.toNat_lt
    have h2 : n.toNat ≠ 4294967295 := fun e => h (UInt32.toNat_inj.1 e)
    rw [UInt32.toNat_add]
    simp only [UInt32.reduceToNat]
    omega

structure Notification where
  id : Option Int
  user : String
  templateKey : String
  audience : Audience
  createdAt : Instant
  params : Bag
  confirmation : Option Confirmation
  push : PushStatus
  deriving DecidableEq, Repr

namespace Notification

/-- The reserved parameter that names the only channel to use. -/
def forceKey : Key .text := ⟨"notify_force_channel", by decide⟩

/-- Personal, queued and due at once. -/
def create (user templateKey : String) (now : Instant) : Notification :=
  ⟨none, user, templateKey, .personal, now, .empty, none, .queuedAt now⟩

def force (n : Notification) (channel : String) : Notification :=
  { n with params := n.params.set forceKey channel }

def forced? (n : Notification) : Option String := n.params.get forceKey

def recordError (n : Notification) (message : String) : Notification :=
  { n with push := { n.push with
    errorCount := countUp n.push.errorCount, errorMessage := some message } }

def isDue (n : Notification) (now : Instant) : Bool := n.push.state == .queued && n.push.date ≤ now

/-- As it was before any attempt, due at `now`. -/
def requeued (n : Notification) (now : Instant) : Notification := { n with push := .queuedAt now }

def intText (i : Int) : String := String.ofList (Json.writeInt i)

def display (n : Notification) : String :=
  "Notification [id=" ++ (n.id.map intText).getD "-" ++ ", user_id=" ++ n.user ++ ", key=" ++
    n.templateKey ++ ", type=" ++ Named.name n.audience ++ ", created_at=" ++
      n.createdAt.toText ++ "]"

end Notification

end Herald
