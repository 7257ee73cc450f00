import Herald.Backoff
import Herald.Proofs.Time.Milliseconds
/-!
Instants some time later: up to the end of the calendar, every delay that is not zero makes a later
instant, later by just as much.
-/

set_option autoImplicit false

namespace Herald

namespace BackoffTable

variable {t : BackoffTable} {count : UInt32}

theorem getElem?_delay (t : BackoffTable) (h : 0 < count.toNat) :
    t.delays[min (count.toNat - 1) (t.delays.length - 1)]? = some (t.delay count) := by
  have hlength := List.length_pos_iff.2 t.ne_nil
  unfold delay
  split
  · omega
  · next n hn =>
    rw [List.getD_eq_getElem?_getD, hn, Nat.succ_sub_one]
    by_cases hlt : n < t.delays.length
    · rw [Nat.min_eq_left (by omega), List.getElem?_eq_getElem hlt, Option.getD_some]
    · rw [Nat.min_eq_right (by omega), ← List.getLast?_eq_getElem?,
        List.getLast?_eq_some_getLast t.ne_nil,
        List.getElem?_eq_none (Nat.le_of_not_lt hlt), Option.getD_none]

theorem delay_mem (t : BackoffTable) (h : 0 < count.toNat) : t.delay count ∈ t.delays :=
  List.mem_of_getElem? (t.getElem?_delay h)

theorem climbing_cons {a : Span} {l : List Span} :
    climbing (a :: l) = true ↔ (∀ b ∈ l.head?, a.nanos ≤ b.nanos) ∧ climbing l = true := by
  cases l <;> simp [climbing]

theorem pairwise_of_climbing {l : List Span} (h : climbing l = true) :
    l.Pairwise fun a b => a.nanos ≤ b.nanos := by
  induction l with
  | nil => exact .nil
  | cons a l ih =>
    obtain ⟨hhead, hl⟩ := climbing_cons.1 h
    refine List.pairwise_cons.2 ⟨fun b hb => ?_, ih hl⟩
    cases l with
    | nil => cases hb
    | cons c l =>
      have hc : a.nanos ≤ c.nanos := hhead c rfl
      rcases List.mem_cons.1 hb with rfl | hb
      · exact hc
      · exact Nat.le_trans hc ((List.pairwise_cons.1 (ih hl)).1 b hb)

theorem delay_mono (t : BackoffTable) {count later : UInt32} (h : count ≤ later) :
    (t.delay count).nanos ≤ (t.delay later).nanos := by
  have hle := UInt32.le_iff_toNat_le.1 h
  by_cases hzero : count.toNat = 0
  · have hd : t.delay count = .zero := by
      unfold delay
      rw [hzero]
    rw [hd]
    exact Nat.zero_le _
  · obtain ⟨hi, hcount⟩ := List.getElem?_eq_some_iff.1 (t.getElem?_delay (Nat.pos_of_ne_zero hzero))
    obtain ⟨hj, hlater⟩ := List.getElem?_eq_some_iff.1
      (t.getElem?_delay (show 0 < later.toNat by omega))
    rw [← hcount, ← hlater]
    have hij : min (count.toNat - 1) (t.delays.length - 1) ≤
        min (later.toNat - 1) (t.delays.length - 1) := by
      omega
    rcases Nat.lt_or_eq_of_le hij with hlt | heq
    · exact List.pairwise_iff_getElem.1 (pairwise_of_climbing t.climbs) _ _ hi hj hlt
    · simp only [heq, Nat.le_refl]

end BackoffTable

namespace Instant

variable {s t : Instant} {d : Span}

theorem eq_iff : s = t ↔ s.secs = t.secs ∧ s.nanos = t.nanos := by
  obtain ⟨secs, nanos, _, _, _, _⟩ := s
  obtain ⟨secs', nanos', _, _, _, _⟩ := t
  simp only [mk.injEq]

theorem le_refl (t : Instant) : t ≤ t := le_def.2 (.inr ⟨rfl, Nat.le_refl _⟩)

theorem le_trans {u : Instant} (h : s ≤ t) (h' : t ≤ u) : s ≤ u := by
  rw [le_def] at *
  omega

theorem not_le : ¬ s ≤ t ↔ t < s := by
  rw [le_def, lt_def]
  omega

theorem lt_ofNanos {n : Int} (ht : t < last)
    (h : t.Plain ∧ t.toNanos < n ∨ (t.secs + 1) * 1000000000 ≤ n) : t < ofNanos n := by
  have h1 := t.min_le
  simp only [Plain, toNanos] at h
  simp only [ofNanos]
  split
  · omega
  · split
    · exact ht
    · rw [lt_def]
      simp only
      omega

def Stays (t : Instant) (d : Span) : Prop := 1000000000 ≤ t.nanos ∧ t.nanos + d.nanos < 2000000000

theorem secs_plus_of_stays (h : t.Stays d) :
    (t.plus d).secs = t.secs ∧ (t.plus d).nanos = t.nanos + d.nanos := by
  have hd : d.nanos ≤ Stretch.longest := by
    have h2 := h.2
    simp only [Stretch.longest]
    omega
  have hs : t.later? ⟨d.nanos, hd⟩ = some { t with
      nanos := t.nanos + d.nanos, nanos_lt := h.2, inserted :=
        fun _ => t.inserted h.1 } := dif_pos h
  rw [plus, Span.stretch?, dif_pos hd, Option.bind_some, hs]
  exact ⟨rfl, rfl⟩

theorem ofNanos_of_lt {n : Int} (h : last.toNanos < n) : ofNanos n = last := by
  simp only [toNanos, last, maxSecs_eq] at h
  have h1 := minSecs_eq
  have h2 := maxSecs_eq
  rw [ofNanos, dif_neg (by omega), dif_pos (by omega)]

theorem ofSecs?_getD {n : Int} (h : first.toNanos ≤ n) :
    (ofSecs? (n / 1000000000) (n % 1000000000).toNat).getD last = ofNanos n := by
  simp only [toNanos, first] at h
  simp only [ofSecs?, ofNanos]
  by_cases hs : maxSecs < n / 1000000000
  · rw [dif_neg (by omega), dif_neg (by omega), dif_pos hs, Option.getD_none]
  · rw [dif_pos ⟨by omega, by omega, by omega, by omega⟩, dif_neg (by omega), dif_neg hs,
      Option.getD_some]

theorem last_lt_of_longest_lt (t : Instant) (h : Stretch.longest < d.nanos) :
    last.toNanos < t.secs * 1000000000 + (t.nanos % 1000000000 : Nat) + d.nanos := by
  have h1 := t.min_le
  rw [minSecs_eq] at h1
  simp only [Stretch.longest] at h
  simp only [toNanos, last, maxSecs_eq]
  omega

/-- Both ways in which an addition fails end where the sum without bounds is cut off. -/
theorem plus_of_not_stays (h : ¬ t.Stays d) :
    t.plus d = ofNanos (t.secs * 1000000000 + (t.nanos % 1000000000 : Nat) + d.nanos) := by
  by_cases hd : d.nanos ≤ Stretch.longest
  · have hs : t.later? ⟨d.nanos, hd⟩ = _ := dif_neg h
    rw [plus, Span.stretch?, dif_pos hd, Option.bind_some, hs]
    refine ofSecs?_getD ?_
    have h1 := t.min_le
    simp only [toNanos, first]
    omega
  · rw [plus, Span.stretch?, dif_neg hd, Option.bind_none, Option.getD_none]
    exact (ofNanos_of_lt (last_lt_of_longest_lt t (Nat.lt_of_not_le hd))).symm

theorem lt_plus (ht : t < last) (hd : 0 < d.nanos) : t < t.plus d := by
  by_cases h : t.Stays d
  · obtain ⟨hs, hn⟩ := secs_plus_of_stays h
    rw [lt_def]
    omega
  · rw [plus_of_not_stays h]
    have hn := t.nanos_lt
    refine lt_ofNanos ht ?_
    simp only [Stays] at h
    simp only [Plain, toNanos]
    omega

theorem le_iff_toNanos (hs : s.Plain) (ht : t.Plain) : s ≤ t ↔ s.toNanos ≤ t.toNanos := by
  have hs : s.nanos < 1000000000 := hs
  have ht : t.nanos < 1000000000 := ht
  rw [le_def]
  simp only [toNanos]
  omega

theorem plain_ofNanos (n : Int) : (ofNanos n).Plain := by
  simp only [ofNanos]
  split
  · decide
  · split
    · decide
    · simp only [Plain]
      omega

theorem toNanos_ofNanos {n : Int} (h : first.toNanos ≤ n) :
    (ofNanos n).toNanos = min n last.toNanos := by
  simp only [toNanos, first, last, minSecs_eq, maxSecs_eq] at h ⊢
  simp only [ofNanos]
  split
  · next hs =>
    rw [minSecs_eq] at hs
    omega
  · split
    · next hs =>
      rw [maxSecs_eq] at hs
      simp only [last, maxSecs_eq]
      omega
    · next hs =>
      rw [maxSecs_eq] at hs
      simp only
      omega

theorem plus_of_plain (h : t.Plain) (d : Span) : t.plus d = ofNanos (t.toNanos + d.nanos) := by
  have hn : t.nanos < 1000000000 := h
  rw [plus_of_not_stays (fun hs => Nat.not_lt.2 hs.1 hn), toNanos, Nat.mod_eq_of_lt hn]

theorem plain_plus (h : t.Plain) (d : Span) : (t.plus d).Plain := by
  rw [plus_of_plain h]
  exact plain_ofNanos _

theorem toNanos_plus (h : t.Plain) (d : Span) :
    (t.plus d).toNanos = min (t.toNanos + d.nanos) last.toNanos := by
  rw [plus_of_plain h]
  refine toNanos_ofNanos ?_
  have hs := t.min_le
  simp only [toNanos, first]
  omega

theorem le_last (h : t.Plain) : t ≤ last := by
  have hn : t.nanos < 1000000000 := h
  have hs := t.le_max
  rw [le_def]
  simp only [last]
  omega

theorem le_plus (h : t.Plain) (d : Span) : t ≤ t.plus d := by
  have hl := (le_iff_toNanos h (by decide)).1 (le_last h)
  rw [le_iff_toNanos h (plain_plus h d), toNanos_plus h]
  omega

theorem plus_mono (h : t.Plain) {d e : Span} (hd : d.nanos ≤ e.nanos) : t.plus d ≤ t.plus e := by
  rw [le_iff_toNanos (plain_plus h d) (plain_plus h e), toNanos_plus h, toNanos_plus h]
  omega

theorem plain_truncated (t : Instant) : t.truncated.Plain := plain_ofNanos _

theorem toNanos_truncated (h : t.Plain) : t.truncated.toNanos = t.toNanos / 1000000 * 1000000 := by
  rw [truncated, ofMillis_toMillis_eq h]
  simp only [toNanos, inMillis]
  omega

end Instant

end Herald
