import Herald.Time.Span
import Herald.Time.Calendar
/-!
Points in time, in seconds and nanoseconds after 1970-01-01T00:00:00 UTC, from the year -262143
through the year 262142. In the last second of a minute the nanoseconds may run on through an
inserted second.
-/

set_option autoImplicit false

namespace Herald

namespace Instant

def minSecs : Int := Date.toDays ⟨-262143, 1, 1⟩ * 86400

def maxSecs : Int := Date.toDays ⟨262142, 12, 31⟩ * 86400 + 86399

theorem minSecs_eq : minSecs = -8334601228800 := by decide

theorem maxSecs_eq : maxSecs = 8210266876799 := by decide

end Instant

structure Instant where
  secs : Int
  nanos : Nat
  min_le : Instant.minSecs ≤ secs := by decide
  le_max : secs ≤ Instant.maxSecs := by decide
  nanos_lt : nanos < 2000000000 := by decide
  inserted : 1000000000 ≤ nanos → secs % 60 = 59 := by decide
  deriving DecidableEq, Repr

namespace Instant

def epoch : Instant := ⟨0, 0, by decide, by decide, by decide, by decide⟩

instance : Inhabited Instant := ⟨epoch⟩

def first : Instant := ⟨minSecs, 0, by decide, by decide, by decide, by decide⟩

def last : Instant := ⟨maxSecs, 999999999, by decide, by decide, by decide, by decide⟩

/-- Lies in no inserted second. -/
def Plain (t : Instant) : Prop := t.nanos < 1000000000

instance (t : Instant) : Decidable t.Plain := inferInstanceAs (Decidable (_ < _))

def ofSecs? (secs : Int) (nanos : Nat) : Option Instant :=
  if h : minSecs ≤ secs ∧ secs ≤ maxSecs ∧ nanos < 2000000000 ∧
    (1000000000 ≤ nanos → secs % 60 = 59) then
    some ⟨secs, nanos, h.1, h.2.1, h.2.2.1, h.2.2.2⟩
  else none

/-- Nanoseconds after the epoch; outside the range of years, its nearer end. -/
def ofNanos (n : Int) : Instant :=
  let s := n / 1000000000
  if h : s < minSecs then first
  else if h' : maxSecs < s then last
  else ⟨s, (n % 1000000000).toNat, by omega, by omega, by omega, by omega⟩

/-- Nanoseconds after the epoch; an inserted second counts like the one that follows it. -/
def toNanos (t : Instant) : Int := t.secs * 1000000000 + t.nanos

def ofMillis (ms : Int) : Instant := ofNanos (ms * 1000000)

def toMillis (t : Instant) : Int := t.secs * 1000 + (t.nanos / 1000000 : Nat)

def le (a b : Instant) : Bool := a.secs < b.secs || (a.secs == b.secs && a.nanos ≤ b.nanos)

instance : LE Instant := ⟨fun a b => a.le b = true⟩

instance (a b : Instant) : Decidable (a ≤ b) := inferInstanceAs (Decidable (_ = _))

def lt (a b : Instant) : Bool := a.secs < b.secs || (a.secs == b.secs && a.nanos < b.nanos)

instance : LT Instant := ⟨fun a b => a.lt b = true⟩

instance (a b : Instant) : Decidable (a < b) := inferInstanceAs (Decidable (_ = _))

theorem le_def {a b : Instant} : a ≤ b ↔
    a.secs < b.secs ∨ (a.secs = b.secs ∧ a.nanos ≤ b.nanos) := by
  show a.le b = true ↔ _
  simp [le]

theorem lt_def {a b : Instant} : a < b ↔
    a.secs < b.secs ∨ (a.secs = b.secs ∧ a.nanos < b.nanos) := by
  show a.lt b = true ↔ _
  simp [lt]

/-- The instant that much later, if the calendar has it. An inserted second counts only for what
stays in it. -/
def later? (t : Instant) (d : Stretch) : Option Instant :=
  if h : 1000000000 ≤ t.nanos ∧ t.nanos + d.nanos < 2000000000 then
    some { t with nanos := t.nanos + d.nanos, nanos_lt := h.2, inserted := fun _ => t.inserted h.1 }
  else
    let n := t.secs * 1000000000 + (t.nanos % 1000000000 : Nat) + d.nanos
    ofSecs? (n / 1000000000) (n % 1000000000).toNat

/-- The instant that much later; `last` for a length that is no stretch, and where the calendar
ends. -/
def plus (t : Instant) (d : Span) : Instant := (d.stretch?.bind t.later?).getD last

def truncated (t : Instant) : Instant := ofMillis t.toMillis

end Instant

end Herald
