/-!
Lengths of time: up to 64 bits of seconds, in nanoseconds. Only shorter ones can be added to an
instant.
-/

set_option autoImplicit false

namespace Herald

/-- The first length, in nanoseconds, that is too long: `2 ^ 64` seconds. -/
abbrev Span.limit : Nat := 18446744073709551616000000000

structure Span where
  nanos : Nat
  bounded : nanos < Span.limit := by decide
  deriving DecidableEq, Repr

/-- The longest length that can be added, in nanoseconds: `2 ^ 63 - 1` milliseconds. -/
abbrev Stretch.longest : Nat := 9223372036854775807000000

/-- A length that can be added to an instant. -/
structure Stretch where
  nanos : Nat
  le_longest : nanos ≤ Stretch.longest := by decide
  deriving DecidableEq, Repr

namespace Span

def zero : Span := ⟨0, by decide⟩

instance : Inhabited Span := ⟨zero⟩

def ofSecs (s : UInt64) : Span :=
  ⟨s.toNat * 1000000000, by have := s.toNat_lt; simp only [limit]; omega⟩

def ofMillis (ms : UInt64) : Span :=
  ⟨ms.toNat * 1000000, by have := ms.toNat_lt; simp only [limit]; omega⟩

/-- Nanoseconds beyond a second carry into the seconds; nothing if those overflow. -/
def ofParts? (secs : UInt64) (nanos : UInt32) : Option Span :=
  let n := secs.toNat * 1000000000 + nanos.toNat
  if h : n < limit then some ⟨n, h⟩ else none

def stretch? (d : Span) : Option Stretch :=
  if h : d.nanos ≤ Stretch.longest then some ⟨d.nanos, h⟩ else none

def secs (d : Span) : UInt64 := .ofNat (d.nanos / 1000000000)

def subNanos (d : Span) : Nat := d.nanos % 1000000000

theorem toNat_secs (d : Span) : d.secs.toNat = d.nanos / 1000000000 := by
  have := d.bounded
  simp only [secs, UInt64.toNat_ofNat']
  apply Nat.mod_eq_of_lt
  simp only [limit] at this
  omega

@[simp] theorem secs_ofSecs (s : UInt64) : (ofSecs s).secs = s := by
  apply UInt64.toNat_inj.1
  rw [toNat_secs]
  simp [ofSecs]

end Span

end Herald
