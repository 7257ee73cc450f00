import Herald.Proofs.Bag.Legibility
import Herald.Proofs.Time.Milliseconds
/-!
What a row gives back of the notification that it was made of: all but fractions of milliseconds,
and the bag as its text is read.
-/

set_option autoImplicit false

namespace Herald

namespace Notification

/-- None of its instants lies in an inserted second. -/
structure Plain (n : Notification) : Prop where
  createdAt : n.createdAt.Plain
  date : n.push.date.Plain
  touched : ∀ c, n.confirmation = some c → c.touched.Plain

instance (n : Notification) : Decidable n.Plain :=
  decidable_of_iff (n.createdAt.Plain ∧ n.push.date.Plain ∧ ∀ c, n.confirmation = some c →
    c.touched.Plain)
    ⟨fun ⟨h₁, h₂, h₃⟩ => ⟨h₁, h₂, h₃⟩, fun h => ⟨h.1, h.2, h.3⟩⟩

def inMillis (n : Notification) : Notification :=
  { n with
    createdAt := n.createdAt.inMillis
    confirmation := n.confirmation.map fun c => { c with touched := c.touched.inMillis }
    push := { n.push with date := n.push.date.inMillis } }

/-- With its instants rounded down to milliseconds, those in an inserted second too. -/
def truncated (n : Notification) : Notification :=
  { n with
    createdAt := n.createdAt.truncated
    confirmation := n.confirmation.map fun c => { c with touched := c.touched.truncated }
    push := { n.push with date := n.push.date.truncated } }

theorem truncated_eq {n : Notification} (plain : n.Plain) : n.truncated = n.inMillis := by
  have rounded {t : Instant} (h : t.Plain) : t.truncated = t.inMillis :=
    Instant.ofMillis_toMillis_eq h
  have hc : (n.confirmation.map fun c => { c with touched := c.touched.truncated }) =
      n.confirmation.map fun c => { c with touched := c.touched.inMillis } :=
    Option.map_congr fun c hc => by rw [rounded (plain.touched c hc)]
  rw [truncated, inMillis, hc, rounded plain.createdAt, rounded plain.date]

end Notification

namespace Row

theorem countOf_toNat (n : UInt32) : countOf (n.toNat : Int) = n := by
  have := n.toNat_lt
  simp only [countOf, Int.toNat_natCast, UInt32.ofNat_toNat]
  rw [if_pos]
  exact ⟨by omega, by simp only [UInt32.size]; omega⟩

theorem notification_truncated [Objections] {n : Notification} {c : Bag}
    (readable : Bag.read? n.params.encode.toText = some c) (id made : Int) :
    ({ ofNotification id n with createdAt := made } : Row).notification =
      .ok { n.truncated with id := some id, createdAt := .ofMillis made, params := c } := by
  have hc : ({ ofNotification id n with createdAt := made } : Row).confirmation =
      n.truncated.confirmation := by
    rw [confirmation, Notification.truncated, ofNotification]
    cases n.confirmation <;> rfl
  simp only [notification, hc]
  simp only [ofNotification, Notification.truncated, Instant.truncated, countOf_toNat, readable]

theorem notification_dated [Objections] {n : Notification} {c : Bag} (plain : n.Plain)
    (readable : Bag.read? n.params.encode.toText = some c) (id made : Int) :
    ({ ofNotification id n with createdAt := made } : Row).notification =
      .ok { n.inMillis with id := some id, createdAt := .ofMillis made, params := c } := by
  rw [notification_truncated readable, n.truncated_eq plain]

theorem notification_ofNotification [Objections] {n : Notification} {c : Bag} (plain : n.Plain)
    (readable : Bag.read? n.params.encode.toText = some c) (id : Int) :
    (ofNotification id n).notification = .ok { n.inMillis with id := some id, params := c } := by
  have h := notification_dated plain readable id n.createdAt.toMillis
  rw [Instant.ofMillis_toMillis_eq plain.createdAt] at h
  exact h

theorem notification_unreadable [Objections] {n : Notification}
    (h : Bag.read? n.params.encode.toText = none) (id : Int) :
    (ofNotification id n).notification = .error (.unread .bag n.params.encode.toText) := by
  have hp : (ofNotification id n).params = n.params.encode.toText := rfl
  simp only [notification, hp, h]

end Row

end Herald
