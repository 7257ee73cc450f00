import Herald.Store
import Herald.Notification.Codec
import Herald.Preferences.Codec
/-!
The rows of a table, in columns of texts and whole numbers: instants are kept in milliseconds, bags
as their texts.
-/

set_option autoImplicit false

namespace Herald

structure Row where
  id : Int
  user : String
  templateKey : String
  kind : Audience
  createdAt : Int
  params : String
  confirmationKey : Option String
  confirmationTouched : Option Int
  pushState : PushState
  pushDate : Int
  pushErrorCount : Int
  pushErrorMessage : Option String
  deriving DecidableEq, Repr

namespace Row

def ofNotification (id : Int) (n : Notification) : Row where
  id
  user := n.user
  templateKey := n.templateKey
  kind := n.audience
  createdAt := n.createdAt.toMillis
  params := n.params.encode.toText
  confirmationKey := n.confirmation.map (·.key)
  confirmationTouched := n.confirmation.map (·.touched.toMillis)
  pushState := n.push.state
  pushDate := n.push.date.toMillis
  pushErrorCount := n.push.errorCount.toNat
  pushErrorMessage := n.push.errorMessage

/-- Rewritten for `n`; the date of making stays. -/
def overwrite (r : Row) (n : Notification) : Row :=
  { ofNotification r.id n with createdAt := r.createdAt }

/-- A count that is none is taken for the greatest. -/
def countOf (i : Int) : UInt32 := if 0 ≤ i ∧ i < UInt32.size then .ofNat i.toNat else 4294967295

/-- Confirmations that were never touched count as touched when the notification was made. -/
def confirmation (r : Row) : Option Confirmation :=
  r.confirmationKey.map fun key => ⟨key, .ofMillis (r.confirmationTouched.getD r.createdAt)⟩

/-- A column takes only the names of its type. -/
def checked (α : Type) [Named α] (name : String) : Except Fault α :=
  match Named.ofName? name with
  | some a => .ok a
  | none => .error (.database .checkViolation)

def notification [Objections] (r : Row) : Except Fault Notification :=
  match Bag.read? r.params with
  | none => .error (.unread .bag r.params)
  | some params => .ok {
      id := some r.id
      user := r.user
      templateKey := r.templateKey
      audience := r.kind
      createdAt := .ofMillis r.createdAt
      params
      confirmation := r.confirmation
      push := {
        state := r.pushState
        date := .ofMillis r.pushDate
        errorCount := countOf r.pushErrorCount
        errorMessage := r.pushErrorMessage } }

def isDue (nowMillis : Int) (r : Row) : Bool := r.pushState == .queued && r.pushDate ≤ nowMillis

def giveUp (nowMillis : Int) (message : String) (r : Row) : Row :=
  { r with pushState := .undeliverable, pushDate := nowMillis, pushErrorMessage := some message }

@[simp] theorem isDue_giveUp (nowMillis : Int) (message : String) (r : Row) (t : Int) :
    (r.giveUp nowMillis message).isDue t = false := by
  simp [isDue, giveUp]

end Row

structure PreferencesRow where
  params : String
  channels : String
  deriving DecidableEq, Repr

namespace PreferencesRow

def ofPreferences (p : Preferences) : PreferencesRow :=
  ⟨p.params.encode.toText, (Json.ofDict PushPreferences.encode p.channels).toText⟩

def readChannels? (s : String) : Option (Dict PushPreferences) := do
  (← Json.Doc.read? s.toList).dict? (PushPreferences.decode? (Json.Doc.maxDepth - 1))

def preferences [Objections] (user : String) (r : PreferencesRow) : Except Fault Preferences :=
  match Bag.read? r.params with
  | none => .error (.unread .bag r.params)
  | some params =>
    match readChannels? r.channels with
    | none => .error (.unread .channels r.channels)
    | some channels => .ok ⟨user, params, channels⟩

end PreferencesRow

end Herald
