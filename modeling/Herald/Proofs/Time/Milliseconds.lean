import Herald.Time.Instant
/-!
Instants that are whole milliseconds: counting them loses nothing and keeps their order, also
against instants between them.
-/

set_option autoImplicit false

namespace Herald

namespace Instant

variable {s t : Instant}

def IsMillis (t : Instant) : Prop := t.Plain ∧ t.nanos % 1000000 = 0

instance (t : Instant) : Decidable t.IsMillis := inferInstanceAs (Decidable (_ ∧ _))

theorem ofNanos_toNanos (h : t.Plain) : ofNanos t.toNanos = t := by
  have h1 := t.min_le
  have h2 := t.le_max
  have hn : t.nanos < 1000000000 := h
  have hq : t.toNanos / 1000000000 = t.secs := by simp only [toNanos]; omega
  have hr : (t.toNanos % 1000000000).toNat = t.nanos := by simp only [toNanos]; omega
  simp only [ofNanos, hq, hr]
  rw [dif_neg (by omega), dif_neg (by omega)]

theorem toMillis_mul (h : t.IsMillis) : t.toMillis * 1000000 = t.toNanos := by
  have hr := h.2
  simp only [toMillis, toNanos]
  omega

theorem ofMillis_toMillis (h : t.IsMillis) : ofMillis t.toMillis = t := by
  rw [ofMillis, toMillis_mul h, ofNanos_toNanos h.1]

def inMillis (t : Instant) : Instant where
  secs := t.secs
  nanos := t.nanos / 1000000 * 1000000
  min_le := t.min_le
  le_max := t.le_max
  nanos_lt := by have := t.nanos_lt; omega
  inserted h := t.inserted (by omega)

theorem inMillis_eq (h : t.IsMillis) : t.inMillis = t := by
  have hn : t.nanos / 1000000 * 1000000 = t.nanos := by
    have hr := h.2
    omega
  obtain ⟨secs, nanos, _, _, _, _⟩ := t
  simp only [inMillis, mk.injEq, true_and]
  exact hn

theorem ofMillis_toMillis_eq (h : t.Plain) : ofMillis t.toMillis = t.inMillis := by
  have hn : t.nanos < 1000000000 := h
  have hm : t.inMillis.IsMillis := by
    simp only [IsMillis, Plain, inMillis]
    omega
  have he : t.toMillis = t.inMillis.toMillis := by
    simp only [toMillis, inMillis]
    omega
  rw [he, ofMillis_toMillis hm]

theorem toMillis_le_iff (h : s.IsMillis) (ht : t.Plain) : s.toMillis ≤ t.toMillis ↔ s ≤ t := by
  have hr := h.2
  have hs : s.nanos < 1000000000 := h.1
  have ht : t.nanos < 1000000000 := ht
  rw [le_def]
  simp only [toMillis]
  omega

theorem toMillis_lt_iff (h : s.IsMillis) (ht : t.IsMillis) : s.toMillis < t.toMillis ↔ s < t := by
  have hs : s.nanos < 1000000000 := h.1
  have hr := ht.2
  have hq := h.2
  have ht : t.nanos < 1000000000 := ht.1
  rw [lt_def]
  simp only [toMillis]
  omega

theorem toMillis_inj (h : s.IsMillis) (ht : t.IsMillis) : s.toMillis = t.toMillis ↔ s = t := by
  refine ⟨fun he => ?_, fun he => he ▸ rfl⟩
  rw [← ofMillis_toMillis h, he, ofMillis_toMillis ht]

end Instant

end Herald
