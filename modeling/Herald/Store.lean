import Herald.Fault
import Herald.Preferences
/-!
Stores of notifications and preferences, as values: what changes a store gives the store after it.
-/

set_option autoImplicit false

namespace Herald

class Store (S : Type) where
  /-- Keeps it under a new number. -/
  save : Notification → S → Except Fault Int × S
  /-- Puts it in the place of the one with its number. -/
  update : Notification → S → Except Fault Unit × S
  delete : Int → S → Except Fault Unit × S
  get : Int → S → Except Fault (Option Notification)
  /-- The queued notification that has been due for longest; of equals the one with the least
  number. A store may set aside on its way what it cannot read. -/
  getNext : Instant → S → Except Fault (Option Notification) × S
  /-- A user's notifications for these audiences, the latest first: so many, after so many. -/
  getRecent : String → List Audience → Nat → Nat → S → Except Fault (List Notification)
  getPreferences : String → S → Except Fault (Option Preferences)
  /-- In the place of the user's former ones. -/
  savePreferences : Preferences → S → Except Fault Unit × S
  removePreferences : String → S → Except Fault Unit × S

namespace Store

def saved {S : Type} [Store S] (n : Notification) (s : S) : Except Fault Notification × S :=
  match save n s with
  | (.ok id, s) => (.ok { n with id := some id }, s)
  | (.error e, s) => (.error e, s)

end Store

/-- A store that can be closed, and answers no more from then on. -/
structure Closable (S : Type) where
  store : S
  isOpen : Bool := true
  deriving Repr

namespace Closable

variable {S : Type}

def closed : Fault := .database .other

def close (c : Closable S) : Closable S := { c with isOpen := false }

def ask {α : Type} (c : Closable S) (f : S → Except Fault α) : Except Fault α :=
  if c.isOpen then f c.store else .error closed

def change {α : Type} (c : Closable S) (f : S → Except Fault α × S) : Except Fault α × Closable S :=
  if c.isOpen then
    let (a, s) := f c.store
    (a, { c with store := s })
  else (.error closed, c)

/-- What needs no look at the store is answered as ever. -/
instance [Store S] : Store (Closable S) where
  save n c := c.change (Store.save n)
  update n c :=
    match n.id with
    | none => (.error (.invalid .unsavedUpdate), c)
    | some _ => c.change (Store.update n)
  delete id c := c.change (Store.delete id)
  get id c := c.ask (Store.get id)
  getNext now c := c.change (Store.getNext now)
  getRecent user audiences offset count c :=
    if audiences.isEmpty || count = 0 then .ok []
    else c.ask (Store.getRecent user audiences offset count)
  getPreferences user c := c.ask (Store.getPreferences user)
  savePreferences p c := c.change (Store.savePreferences p)
  removePreferences user c := c.change (Store.removePreferences user)

end Closable

end Herald
