import Herald.Store.Order
import Herald.Store.Row
/-!
A store of rows in a table. A row's number is never used again, and no two rows share a
confirmation key. A row that cannot be read does not hold up the queue: it is given up as soon as it
comes to its head.
-/

set_option autoImplicit false

namespace Herald

structure Table where
  lastId : Nat
  rows : List Row
  preferences : Dict PreferencesRow
  ascending : rows.Pairwise (·.id < ·.id)
  numbered : ∀ r ∈ rows, 1 ≤ r.id ∧ r.id ≤ lastId
  deriving Repr

namespace Table

def empty : Table := ⟨0, [], .empty, by simp, by simp⟩

instance : Inhabited Table := ⟨empty⟩

def find? (t : Table) (id : Int) : Option Row := t.rows.find? fun r => r.id == id

/-- Another row than that with this number has the key. -/
def isKeyTaken (t : Table) (id : Int) : Option String → Bool
  | none => false
  | some key => t.rows.any fun r => r.id != id && r.confirmationKey == some key

def nextId (t : Table) : Int := t.lastId + 1

theorem nextId_eq (t : Table) : t.nextId = t.lastId + 1 := rfl

theorem id_lt_nextId {t : Table} {r : Row} (h : r ∈ t.rows) : r.id < t.nextId := by
  have := t.numbered r h
  simp only [nextId]
  omega

def append (row : Row) (t : Table) : Table where
  lastId := t.lastId + 1
  rows := t.rows ++ [{ row with id := t.nextId }]
  preferences := t.preferences
  ascending := List.pairwise_append.2 ⟨t.ascending, List.pairwise_singleton _ _, fun _ ha _ hb =>
    (List.mem_singleton.1 hb).symm ▸ id_lt_nextId ha⟩
  numbered := by
    intro r hr
    have := t.nextId_eq
    rcases List.mem_append.1 hr with hr | hr
    · have := t.numbered r hr
      omega
    · have := congrArg Row.id (List.mem_singleton.1 hr)
      simp only at this
      omega

def renewed (f : Row → Row) (r : Row) : Row := { f r with id := r.id }

def change (id : Int) (f : Row → Row) (t : Table) : Table where
  lastId := t.lastId
  rows := t.rows.map fun r => if r.id = id then renewed f r else r
  preferences := t.preferences
  ascending := by
    refine List.pairwise_map.2 (t.ascending.imp fun {a b} h => ?_)
    split <;> split <;> exact h
  numbered := by
    intro r hr
    obtain ⟨a, ha, rfl⟩ := List.mem_map.1 hr
    split <;> exact t.numbered a ha

def erase (id : Int) (t : Table) : Table where
  lastId := t.lastId
  rows := t.rows.filter fun r => r.id ≠ id
  preferences := t.preferences
  ascending := t.ascending.filter _
  numbered r hr := t.numbered r (List.mem_filter.1 hr).1

def insert (row : Row) (t : Table) : Except Fault Int × Table :=
  if t.isKeyTaken t.nextId row.confirmationKey then (.error (.database .uniqueViolation), t)
  else (.ok t.nextId, t.append row)

def setPreferences (d : Dict PreferencesRow) (t : Table) : Table := { t with preferences := d }

def insertPreferences (user : String) (r : PreferencesRow) (t : Table) :
    Except Fault Unit × Table :=
  if t.preferences.contains user then (.error (.database .uniqueViolation), t)
  else (.ok (), t.setPreferences (t.preferences.insert user r))

def due (now : Int) (t : Table) : List Row := t.rows.filter (Row.isDue now)

def earliest : List Row → Option Row := earliestOf (·.pushDate) (·.id)

def head? (now : Int) (t : Table) : Option Row := earliest (t.due now)

def unreadableText (f : Fault) : String := "cannot decode notification: " ++ f.message

def giveUp (id : Int) (now : Int) (f : Fault) (t : Table) : Table :=
  t.change id (Row.giveUp now (unreadableText f))

private theorem countP_map_lt {α : Type} {p : α → Bool} {f : α → α} {l : List α}
    (keep : ∀ a, p (f a) → p a) {a : α} (ha : a ∈ l) (hp : p a) (hf : p (f a) = false) :
    (l.map f).countP p < l.countP p := by
  have le : ∀ l : List α, (l.map f).countP p ≤ l.countP p := by
    intro l
    induction l with
    | nil => simp
    | cons b l ih =>
      have := keep b
      simp only [List.map_cons, List.countP_cons]
      split <;> split <;> grind
  induction l with
  | nil => simp at ha
  | cons b l ih =>
    simp only [List.map_cons, List.countP_cons]
    rcases List.mem_cons.1 ha with rfl | ha
    · have := le l
      simp only [hp, hf, if_true]
      simp only [Bool.false_eq_true, if_false]
      omega
    · have := ih ha
      have := keep b
      split <;> split <;> grind

theorem length_due_giveUp (now : Int) (t : Table) {r : Row} (h : t.head? now = some r) (f : Fault) :
    ((t.giveUp r.id now f).due now).length < (t.due now).length := by
  have hm := List.mem_filter.1 (mem_of_earliestOf h)
  simp only [due, giveUp, change, ← List.countP_eq_length_filter]
  refine countP_map_lt (fun a => ?_) hm.1 hm.2 ?_
  · split
    · simp [renewed, Row.isDue, Row.giveUp]
    · exact id
  · simp [renewed, Row.isDue, Row.giveUp]

/-- Gives up rows that cannot be read until the head of the queue can be. -/
def next [Objections] (now : Int) (t : Table) : Option Notification × Table :=
  match _h : t.head? now with
  | none => (none, t)
  | some r =>
    match r.notification with
    | .ok n => (some n, t)
    | .error f => next now (t.giveUp r.id now f)
termination_by (t.due now).length
decreasing_by exact length_due_giveUp now t _h f

theorem next_of_head?_none [Objections] {now : Int} {t : Table} (h : t.head? now = none) :
    t.next now = (none, t) := by
  rw [next]
  split
  · rfl
  · next hr => rw [h] at hr; cases hr

theorem next_of_head?_some [Objections] {now : Int} {t : Table} {r : Row} {n : Notification}
    (h : t.head? now = some r)
    (hn : r.notification = .ok n) : t.next now = (some n, t) := by
  rw [next]
  split
  · next hr => rw [h] at hr; cases hr
  · next r' hr =>
    rw [h] at hr
    cases hr
    rw [hn]

/-- Limits and offsets are numbers of 64 bits. -/
def bound (n : Nat) : Nat := min n 9223372036854775807

def isLater (a b : Row) : Bool := inOrder (·.createdAt) (·.id) b a

def recent (user : String) (audiences : List Audience) (offset count : Nat)
    (t : Table) : List Row :=
  ((((t.rows.filter fun r => r.user == user && audiences.contains r.kind).mergeSort isLater).drop
    (bound offset)).take (bound count))

/-- All of them, or the fault of the first that cannot be read. -/
def readAll [Objections] : List Row → Except Fault (List Notification)
  | [] => .ok []
  | r :: rs =>
    match r.notification with
    | .error f => .error f
    | .ok n =>
      match readAll rs with
      | .error f => .error f
      | .ok ns => .ok (n :: ns)

instance [Objections] : Store Table where
  save n t := t.insert (.ofNotification t.nextId n)
  update n t :=
    match n.id with
    | none => (.error (.invalid .unsavedUpdate), t)
    | some id =>
      match t.find? id with
      | none => (.error (.noNotification id), t)
      | some _ =>
        if t.isKeyTaken id (n.confirmation.map (·.key))
          then (.error (.database .uniqueViolation), t)
        else (.ok (), t.change id (·.overwrite n))
  delete id t := (.ok (), t.erase id)
  get id t :=
    match t.find? id with
    | none => .ok none
    | some r => r.notification.map some
  getNext now t :=
    let (n, t) := t.next now.toMillis
    (.ok n, t)
  getRecent user audiences offset count t :=
    if audiences.isEmpty || count = 0 then .ok []
      else readAll (t.recent user audiences offset count)
  getPreferences user t :=
    match t.preferences.get? user with
    | none => .ok none
    | some r => (r.preferences user).map some
  savePreferences p t := (.ok (), t.setPreferences (t.preferences.insert p.user (.ofPreferences p)))
  removePreferences user t := (.ok (), t.setPreferences (t.preferences.erase user))

end Table

end Herald
