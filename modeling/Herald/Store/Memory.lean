import Herald.Store
import Herald.Store.Order
/-!
A store that holds its notifications as they are, in the order of their numbers. Numbers are given
from one on, and none is given twice.
-/

set_option autoImplicit false

namespace Herald

structure MemoryStore where
  lastId : Nat
  records : List (Int × Notification)
  preferences : Dict Preferences
  ascending : records.Pairwise (·.1 < ·.1)
  numbered : ∀ r ∈ records, 1 ≤ r.1 ∧ r.1 ≤ lastId ∧ r.2.id = some r.1
  deriving Repr

namespace MemoryStore

def empty : MemoryStore := ⟨0, [], .empty, by simp, by simp⟩

instance : Inhabited MemoryStore := ⟨empty⟩

def size (s : MemoryStore) : Nat := s.records.length

def isEmpty (s : MemoryStore) : Bool := s.records.isEmpty

def notifications (s : MemoryStore) : List Notification := s.records.map (·.2)

def find? (s : MemoryStore) (id : Int) : Option Notification :=
  (s.records.find? fun r => r.1 == id).map (·.2)

def nextId (s : MemoryStore) : Int := s.lastId + 1

def append (n : Notification) (s : MemoryStore) : MemoryStore where
  lastId := s.lastId + 1
  records := s.records ++ [(s.nextId, { n with id := some s.nextId })]
  preferences := s.preferences
  ascending := by
    refine List.pairwise_append.2 ⟨s.ascending, by simp, fun a ha b hb => ?_⟩
    have := s.numbered a ha
    simp only [List.mem_singleton] at hb
    subst hb
    simp only [nextId]
    omega
  numbered := by
    intro r hr
    rcases List.mem_append.1 hr with hr | hr
    · have := s.numbered r hr
      exact ⟨this.1, by omega, this.2.2⟩
    · simp only [List.mem_singleton] at hr
      subst hr
      exact ⟨by simp only [nextId]; omega, by simp only [nextId]; omega, rfl⟩

def replace (id : Int) (n : Notification) (s : MemoryStore) : MemoryStore where
  lastId := s.lastId
  records := s.records.map fun r => if r.1 = id then (r.1, { n with id := some r.1 }) else r
  preferences := s.preferences
  ascending := by
    refine List.pairwise_map.2 (s.ascending.imp fun {a b} h => ?_)
    split <;> split <;> exact h
  numbered := by
    intro r hr
    obtain ⟨a, ha, rfl⟩ := List.mem_map.1 hr
    have := s.numbered a ha
    split
    · exact ⟨this.1, this.2.1, rfl⟩
    · exact this

def erase (id : Int) (s : MemoryStore) : MemoryStore where
  lastId := s.lastId
  records := s.records.filter fun r => r.1 ≠ id
  preferences := s.preferences
  ascending := s.ascending.filter _
  numbered r hr := s.numbered r (List.mem_filter.1 hr).1

def setPreferences (d : Dict Preferences) (s : MemoryStore) : MemoryStore :=
  { s with preferences := d }

def earliest : List (Int × Notification) → Option (Int × Notification) :=
  earliestOf (fun r => r.2.push.date) (·.1)

def next? (now : Instant) (s : MemoryStore) : Option Notification :=
  (earliest (s.records.filter fun r => r.2.isDue now)).map (·.2)

/-- The later made goes first, and of two made at once the one with the greater number. -/
def isLater (a b : Int × Notification) : Bool :=
  inOrder (fun r => r.2.createdAt) (·.1) b a

def recent (user : String) (audiences : List Audience) (s : MemoryStore) : List Notification :=
  ((s.records.filter fun r =>
    r.2.user == user && audiences.contains r.2.audience).mergeSort isLater).map
    (·.2)

instance : Store MemoryStore where
  save n s := (.ok s.nextId, s.append n)
  update n s :=
    match n.id with
    | none => (.error (.invalid .unsavedUpdate), s)
    | some id =>
      match s.find? id with
      | none => (.error (.noNotification id), s)
      | some _ => (.ok (), s.replace id n)
  delete id s := (.ok (), s.erase id)
  get id s := .ok (s.find? id)
  getNext now s := (.ok (s.next? now), s)
  getRecent user audiences offset count s :=
    .ok (((s.recent user audiences).drop offset).take count)
  getPreferences user s := .ok (s.preferences.get? user)
  savePreferences p s := (.ok (), s.setPreferences (s.preferences.insert p.user p))
  removePreferences user s := (.ok (), s.setPreferences (s.preferences.erase user))

end MemoryStore

end Herald
