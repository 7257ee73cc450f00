import Herald.Proofs.Store.Rows
import Herald.Store.Memory
/-!
What is asked of a store and what it replies; replies that agree; and requests that any store can be
held to.
-/

set_option autoImplicit false

namespace Herald

inductive Request where
  | save (n : Notification)
  | update (n : Notification)
  | delete (id : Int)
  | get (id : Int)
  | getNext (now : Instant)
  | getRecent (user : String) (audiences : List Audience) (offset count : Nat)
  | getPreferences (user : String)
  | savePreferences (p : Preferences)
  | removePreferences (user : String)

inductive Reply where
  | number (r : Except Fault Int)
  | done (r : Except Fault Unit)
  | notification (r : Except Fault (Option Notification))
  | notifications (r : Except Fault (List Notification))
  | preferences (r : Except Fault (Option Preferences))

section Stores

variable {S : Type} [Store S]

def Request.answer (s : S) : Request → Reply × S
  | .save n => let (r, s) := Store.save n s; (.number r, s)
  | .update n => let (r, s) := Store.update n s; (.done r, s)
  | .delete id => let (r, s) := Store.delete id s; (.done r, s)
  | .get id => (.notification (Store.get id s), s)
  | .getNext now => let (r, s) := Store.getNext now s; (.notification r, s)
  | .getRecent user audiences offset count =>
    (.notifications (Store.getRecent user audiences offset count s), s)
  | .getPreferences user => (.preferences (Store.getPreferences user s), s)
  | .savePreferences p => let (r, s) := Store.savePreferences p s; (.done r, s)
  | .removePreferences user => let (r, s) := Store.removePreferences user s; (.done r, s)

def replies (s : S) : List Request → List Reply
  | [] => []
  | q :: qs => (q.answer s).1 :: replies (q.answer s).2 qs

def Request.run (s : S) (qs : List Request) : S := qs.foldl (fun s q => (q.answer s).2) s

end Stores

/-- Equal but for the defaults that a bag remembers. -/
def Notification.Same (m n : Notification) : Prop :=
  m = { n with params := m.params } ∧ m.params.same n.params = true

inductive Alike {α : Type} (R : α → α → Prop) : Except Fault α → Except Fault α → Prop where
  | ok {a b : α} (h : R a b) : Alike R (.ok a) (.ok b)
  | error (e : Fault) : Alike R (.error e) (.error e)

inductive Reply.Agrees : Reply → Reply → Prop where
  | number (r : Except Fault Int) : Agrees (.number r) (.number r)
  | done (r : Except Fault Unit) : Agrees (.done r) (.done r)
  | notification {r s : Except Fault (Option Notification)}
      (h : Alike (Option.Rel Notification.Same) r s) : Agrees (.notification r) (.notification s)
  | notifications {r s : Except Fault (List Notification)}
      (h : Alike (List.Forall₂ Notification.Same) r s) :
      Agrees (.notifications r) (.notifications s)
  | preferences {r s : Except Fault (Option Preferences)}
      (h : Alike (Option.Rel Preferences.Same) r s) : Agrees (.preferences r) (.preferences s)

namespace Notification

def key? (n : Notification) : Option String := n.confirmation.map (·.key)

/-- All its instants are whole milliseconds. -/
structure Dated (n : Notification) : Prop where
  createdAt : n.createdAt.IsMillis
  date : n.push.date.IsMillis
  touched : ∀ c, n.confirmation = some c → c.touched.IsMillis

theorem Dated.plain {n : Notification} (h : n.Dated) : n.Plain :=
  ⟨h.createdAt.1, h.date.1, fun c hc => (h.touched c hc).1⟩

theorem Dated.inMillis_eq {n : Notification} (h : n.Dated) : n.inMillis = n := by
  have hc : n.confirmation.map (fun c => { c with touched := c.touched.inMillis }) =
      n.confirmation := by
    cases hc : n.confirmation with
    | none => rfl
    | some c => simp [Instant.inMillis_eq (h.touched c hc)]
  rw [inMillis, hc, Instant.inMillis_eq h.createdAt, Instant.inMillis_eq h.date]

end Notification

instance (n : Notification) : Decidable n.Dated :=
  decidable_of_iff (n.createdAt.IsMillis ∧ n.push.date.IsMillis ∧
    ∀ c, n.confirmation = some c → c.touched.IsMillis)
    ⟨fun ⟨h₁, h₂, h₃⟩ => ⟨h₁, h₂, h₃⟩, fun h => ⟨h.1, h.2, h.3⟩⟩

/-- Dates are whole milliseconds, no two records share a confirmation key, and the bags are as they
should be, those of channels in a way of their own. -/
structure MemoryStore.Regular (own inner : Bag → Prop) (m : MemoryStore) : Prop where
  dated : ∀ r ∈ m.records, r.2.Dated
  params : ∀ r ∈ m.records, own r.2.params
  apart : ∀ r ∈ m.records, ∀ s ∈ m.records, ∀ key, r.2.key? = some key →
    s.2.key? = some key → r.1 = s.1
  general : ∀ e ∈ m.preferences.entries, own e.2.params
  channels : ∀ e ∈ m.preferences.entries, ∀ f ∈ e.2.channels.entries, inner f.2.params

instance (own inner : Bag → Prop) [DecidablePred own] [DecidablePred inner] (m : MemoryStore) :
    Decidable (m.Regular own inner) :=
  decidable_of_iff ((∀ r ∈ m.records, r.2.Dated) ∧ (∀ r ∈ m.records, own r.2.params) ∧
      (∀ r ∈ m.records, ∀ s ∈ m.records, ∀ key, r.2.key? = some key →
        s.2.key? = some key → r.1 = s.1) ∧
      (∀ e ∈ m.preferences.entries, own e.2.params) ∧
      ∀ e ∈ m.preferences.entries, ∀ f ∈ e.2.channels.entries, inner f.2.params)
    ⟨fun ⟨h₁, h₂, h₃, h₄, h₅⟩ => ⟨h₁, h₂, h₃, h₄, h₅⟩, fun h => ⟨h.1, h.2, h.3, h.4, h.5⟩⟩

/-- An update keeps the date of making, and limits and offsets are numbers of 64 bits. -/
def Request.Fits (m : MemoryStore) : Request → Prop
  | .update n => ∀ id, n.id = some id → ∀ r, m.find? id = some r → n.createdAt = r.createdAt
  | .getNext now => now.Plain
  | .getRecent _ _ offset count => offset < 9223372036854775808 ∧ count < 9223372036854775808
  | _ => True

instance (m : MemoryStore) : (q : Request) → Decidable (q.Fits m)
  | .update n =>
    inferInstanceAs (Decidable
      (∀ id, n.id = some id → ∀ r, m.find? id = some r → n.createdAt = r.createdAt))
  | .getNext now => inferInstanceAs (Decidable now.Plain)
  | .getRecent _ _ _ _ => inferInstanceAs (Decidable (_ ∧ _))
  | .save _ | .delete _ | .get _ | .getPreferences _ | .savePreferences _ | .removePreferences _ =>
    inferInstanceAs (Decidable True)

/-- The store is regular all the way, and each request fits. -/
def Proper (own inner : Bag → Prop) (m : MemoryStore) : List Request → Prop
  | [] => m.Regular own inner
  | q :: qs => m.Regular own inner ∧ q.Fits m ∧ Proper own inner (q.answer m).2 qs

instance decidableProper (own inner : Bag → Prop) [DecidablePred own] [DecidablePred inner] :
    (m : MemoryStore) → (qs : List Request) → Decidable (Proper own inner m qs)
  | m, [] => inferInstanceAs (Decidable (m.Regular own inner))
  | m, q :: qs =>
    have := decidableProper own inner (q.answer m).2 qs
    inferInstanceAs (Decidable (m.Regular own inner ∧ q.Fits m ∧
      Proper own inner (q.answer m).2 qs))

theorem Proper.regular {own inner : Bag → Prop} {m : MemoryStore} {qs : List Request}
    (h : Proper own inner m qs) : m.Regular own inner := by
  cases qs with
  | nil => exact h
  | cons q qs => exact h.1

end Herald
