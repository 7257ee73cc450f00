import Herald.Proofs.Time.Delay
import Herald.Proofs.Codec.Readings
/-!
Tables of delays: the lists that are tables, what a table answers for every number of failures, and
what is left of it when it is written as whole seconds and read again.
-/

set_option autoImplicit false

namespace Herald

open Json

def Span.whole (d : Span) : Span := .ofSecs d.secs

theorem Span.nanos_whole (d : Span) : d.whole.nanos = d.nanos / 1000000000 * 1000000000 :=
  congrArg (· * 1000000000) d.toNat_secs

namespace BackoffTable

variable {l : List Span} {secs : List UInt64} {t : BackoffTable}

theorem climbing_of_pairwise (h : l.Pairwise fun a b => a.nanos ≤ b.nanos) : climbing l = true := by
  induction l with
  | nil => rfl
  | cons a l ih =>
    obtain ⟨ha, hl⟩ := List.pairwise_cons.1 h
    exact climbing_cons.2 ⟨fun b hb => ha b (List.mem_of_mem_head? hb), ih hl⟩

theorem climbing_iff_pairwise : climbing l = true ↔ l.Pairwise fun a b => a.nanos ≤ b.nanos :=
  ⟨pairwise_of_climbing, climbing_of_pairwise⟩

/-- Some entry is shorter than one before it, be it the next one before or not. -/
def Falls (l : List Span) : Prop :=
  ∃ (i j : Nat) (a b : Span), i < j ∧ l[i]? = some a ∧ l[j]? = some b ∧ b.nanos < a.nanos

theorem falls_iff : Falls l ↔ climbing l = false := by
  rw [← Bool.not_eq_true, climbing_iff_pairwise, List.pairwise_iff_getElem]
  constructor
  · rintro ⟨i, j, a, b, hij, ha, hb, hlt⟩ h
    obtain ⟨hi, rfl⟩ := List.getElem?_eq_some_iff.1 ha
    obtain ⟨hj, rfl⟩ := List.getElem?_eq_some_iff.1 hb
    exact Nat.not_lt.2 (h i j hi hj hij) hlt
  · intro h
    push Not at h
    obtain ⟨i, j, hi, hj, hij, hlt⟩ := h
    exact ⟨i, j, l[i], l[j], hij, List.getElem?_eq_getElem hi, List.getElem?_eq_getElem hj, hlt⟩

theorem ofSpans?_eq_ok : ofSpans? l = .ok t ↔ t.delays = l := by
  constructor
  · intro h
    rw [ofSpans?] at h
    split at h
    · cases h
    · split at h
      · cases h
        rfl
      · cases h
  · rintro rfl
    rw [ofSpans?, dif_neg t.ne_nil, dif_pos t.climbs]

theorem ofSpans?_eq_noEntry : ofSpans? l = .error .noEntry ↔ l = [] := by
  rw [ofSpans?]
  split
  · next h => exact iff_of_true rfl h
  · next h => split <;> exact iff_of_false (by rintro ⟨⟩) h

theorem ofSpans?_eq_decreasing : ofSpans? l = .error .decreasing ↔ Falls l := by
  rw [falls_iff, ofSpans?]
  split
  · next h => exact iff_of_false (by rintro ⟨⟩) (by simp [h, climbing])
  · split
    · next h => exact iff_of_false (by rintro ⟨⟩) (by simp [h])
    · next h => exact iff_of_true rfl (by simpa using h)

theorem exists_ofSpans?_iff : (∃ t, ofSpans? l = .ok t) ↔ l ≠ [] ∧ climbing l = true := by
  constructor
  · rintro ⟨t, ht⟩
    rw [← ofSpans?_eq_ok.1 ht]
    exact ⟨t.ne_nil, t.climbs⟩
  · rintro ⟨h, h'⟩
    exact ⟨⟨l, h, h'⟩, ofSpans?_eq_ok.2 rfl⟩

/-- What a table answers, for every number of failures. -/
structure Escalates (t : BackoffTable) : Prop where
  before_first : t.delay 0 = .zero
  /-- The place that is looked up is one of the list. -/
  in_range (count : UInt32) : 0 < count → ∃ h :
  min (count.toNat - 1) (t.delays.length - 1) < t.delays.length,
    t.delay count = t.delays[min (count.toNat - 1) (t.delays.length - 1)]
  nth (count : UInt32) : 0 < count → count.toNat ≤ t.delays.length →
    t.delays[count.toNat - 1]? = some (t.delay count)
  beyond (count : UInt32) : t.delays.length ≤ count.toNat → t.delays.getLast? = some (t.delay count)
  mono (count later : UInt32) : count ≤ later → (t.delay count).nanos ≤ (t.delay later).nanos

theorem escalates (t : BackoffTable) : t.Escalates := by
  have hlength := List.length_pos_iff.2 t.ne_nil
  refine ⟨rfl, fun count h => ?_, fun count h hle => ?_, fun count hle => ?_,
    fun _ _ => t.delay_mono⟩
  · obtain ⟨hi, hd⟩ := List.getElem?_eq_some_iff.1 (t.getElem?_delay (UInt32.lt_iff_toNat_lt.1 h))
    exact ⟨hi, hd.symm⟩
  · rw [← t.getElem?_delay (UInt32.lt_iff_toNat_lt.1 h), Nat.min_eq_left (by omega)]
  · rw [← t.getElem?_delay (by omega), Nat.min_eq_right (by omega), List.getLast?_eq_getElem?]

theorem delay_of_map {u : BackoffTable} {f : Span → Span} (h : u.delays = t.delays.map f)
    (hzero : f .zero = .zero) (count : UInt32) : u.delay count = f (t.delay count) := by
  rcases Nat.eq_zero_or_pos count.toNat with hcount | hcount
  · have none_yet (v : BackoffTable) : v.delay count = .zero := by
      unfold delay
      rw [hcount]
    rw [none_yet, none_yet, hzero]
  · have hu := u.getElem?_delay hcount
    rw [h, List.length_map, List.getElem?_map, t.getElem?_delay hcount] at hu
    exact (Option.some.inj hu).symm

def read? (s : String) : Option BackoffTable := (Doc.read? s.toList).bind decode?

theorem exists_ofSecs?_secs (t : BackoffTable) :
    ∃ u, ofSecs? t.secs = .ok u ∧ u.delays = t.delays.map Span.whole := by
  have hmap : t.secs.map Span.ofSecs = t.delays.map Span.whole := by
    rw [secs, List.map_map]
    rfl
  have climbs : climbing (t.delays.map Span.whole) = true := by
    refine climbing_of_pairwise (List.pairwise_map.2 ((pairwise_of_climbing t.climbs).imp ?_))
    intro a b h
    rw [Span.nanos_whole, Span.nanos_whole]
    exact Nat.mul_le_mul_right _ (Nat.div_le_div_right h)
  let u : BackoffTable := ⟨t.delays.map Span.whole, by simpa using t.ne_nil, climbs⟩
  exact ⟨u, ofSpans?_eq_ok.2 hmap.symm, rfl⟩

theorem secs_of_ofSecs? (h : ofSecs? secs = .ok t) : t.secs = secs := by
  rw [BackoffTable.secs, ofSpans?_eq_ok.1 h, List.map_map]
  exact (List.map_congr_left fun s _ => Span.secs_ofSecs s).trans (List.map_id _)

theorem exists_ofSecs?_iff : (∃ t, ofSecs? secs = .ok t) ↔ secs ≠ [] ∧ secs.Pairwise (· ≤ ·) := by
  have climbs : climbing (secs.map Span.ofSecs) = true ↔ secs.Pairwise (· ≤ ·) := by
    rw [climbing_iff_pairwise, List.pairwise_map]
    exact List.Pairwise.iff fun a b =>
      (Nat.mul_le_mul_right_iff (by decide)).trans UInt64.le_iff_toNat_le.symm
  rw [ofSecs?, exists_ofSpans?_iff, climbs, ne_eq, List.map_eq_nil_iff]

def written (secs : List UInt64) : Json := .array (secs.map fun s => .ofNat s.toNat)

theorem read?_written (secs : List UInt64) :
    read? (written secs).toText = (ofSecs? secs).toOption := by
  rw [read?, Doc.read?_toText, Option.bind_some, decode?, written,
    Doc.list?_ofJson Doc.uint64?_ofJson, Option.bind_some]

theorem read?_written_eq_some : read? (written secs).toText = some t ↔ ofSecs? secs = .ok t := by
  rw [read?_written]
  cases ofSecs? secs <;> simp [Except.toOption]

/-- A list is refused if and only if it is empty or some entry is shorter than some entry before it,
next to it or not; otherwise it is the list of a table, and there are no other tables. Every table
answers every number of failures from its list, and never with less after more of them. Written as
seconds and read again every table comes back, each delay without parts of a second; and a list of
seconds that is read comes back from the table as it was. -/
theorem escalates_through_documents :
    (∀ l : List Span, (ofSpans? l = .error .noEntry ↔ l = []) ∧
      (ofSpans? l = .error .decreasing ↔ Falls l) ∧
      ((∃ t, ofSpans? l = .ok t) ↔ ¬ (l = [] ∨ Falls l)) ∧ ∀ t, ofSpans? l = .ok t ↔ t.delays = l) ∧
    (∀ t : BackoffTable, t.Escalates ∧ ∃ u, ofSecs? t.secs = .ok u ∧
      read? t.encode.toText = some u ∧
      u.delays = t.delays.map Span.whole ∧ ∀ count, u.delay count = (t.delay count).whole) ∧
    ∀ secs : List UInt64, ((∃ t, read? (written secs).toText = some t) ↔
      secs ≠ [] ∧ secs.Pairwise (· ≤ ·)) ∧ ∀ t, read? (written secs).toText = some t →
        t.delays = secs.map Span.ofSecs ∧ t.secs = secs ∧ t.encode = written secs := by
  refine ⟨fun l => ⟨ofSpans?_eq_noEntry, ofSpans?_eq_decreasing, ?_, fun t => ofSpans?_eq_ok⟩,
    fun t => ?_, fun secs => ⟨?_, fun t ht => ?_⟩⟩
  · rw [exists_ofSpans?_iff, falls_iff, not_or, Bool.not_eq_false]
  · obtain ⟨u, hu, hdelays⟩ := t.exists_ofSecs?_secs
    exact ⟨t.escalates, u, hu, read?_written_eq_some.2 hu, hdelays, delay_of_map hdelays rfl⟩
  · simp only [read?_written_eq_some]
    exact exists_ofSecs?_iff
  · have ht := read?_written_eq_some.1 ht
    have hsecs := secs_of_ofSecs? ht
    exact ⟨ofSpans?_eq_ok.1 ht, hsecs, congrArg written hsecs⟩

theorem escalates_through_documents_of_three :
    let t : BackoffTable := ⟨[.ofMillis 1500, .ofMillis 1700, .ofMillis 3000], by decide, by decide⟩
    let u : BackoffTable := ⟨[.ofSecs 5, .ofSecs 5, .ofSecs 10], by decide, by decide⟩
    t.delays[1]? = some (t.delay 2) ∧ t.delays.getLast? = some (t.delay 4294967295) ∧
      (t.delay 2).nanos ≤ (t.delay 4294967295).nanos ∧
        ofSecs? t.secs = .ok ⟨[.ofSecs 1, .ofSecs 1, .ofSecs 3],
        by decide, by decide⟩ ∧ read? (written [5, 5, 10]).toText = some u ∧
          u.secs = [5, 5, 10] := by
  intro t u
  have ht := (escalates_through_documents.2.1 t).1
  have hu : read? (written [5, 5, 10]).toText = some u := read?_written_eq_some.2 (by decide)
  exact ⟨ht.nth 2 (by decide) (by decide), ht.beyond 4294967295 (by decide),
    ht.mono 2 4294967295 (by decide),
    by decide, hu, ((escalates_through_documents.2.2 [5, 5, 10]).2 u hu).2.1⟩

end BackoffTable

end Herald
