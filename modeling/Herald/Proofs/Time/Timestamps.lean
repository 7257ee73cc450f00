import Herald.Proofs.Json.Literals
import Herald.Proofs.Text.Trimming
import Herald.Notification.Codec
import Mathlib.Data.List.TakeWhile
import Mathlib.Tactic.IntervalCases
/-!
A timestamp that is written is read again. Its date is the one of the day it lies in, and of each
part the reader takes just the digits that were written for it.
-/

set_option autoImplicit false

namespace Herald

open Json

namespace Date

structure InCycle (year day : Int) : Prop where
  year_nonneg : 0 ≤ year
  year_lt : year < 400
  day_nonneg : 0 ≤ day
  day_le : day ≤ 365
  leap : day = 365 → year % 4 = 3 ∧ (year % 100 = 99 → year = 399)

/-- The year of a day of century `c`, where one quotient for all centuries stands for the leap
days. -/
theorem century {c r leaps year : Int} (hc : 0 ≤ c ∧ c ≤ 3) (hr : 0 ≤ r ∧ r < 36524)
    (hl : leaps = (24 * c + r) / 1460) (hy : year = (r - leaps) / 365) :
    0 ≤ year ∧ year < 100 ∧ 365 * year + year / 4 ≤ r ∧ r ≤ 365 * year + year / 4 + 365 ∧
      (r = 365 * year + year / 4 + 365 → year % 4 = 3 ∧ year ≠ 99) := by
  -- the quotient is at most one leap day ahead
  have low : year / 4 ≤ leaps := by omega
  have high : leaps ≤ year / 4 + 1 := by omega
  have leaps_le : leaps ≤ 25 := by omega
  have before : 365 * year ≤ r - leaps := by omega
  have behind : r - leaps ≤ 365 * year + 364 := by omega
  have leaps_low : 1460 * leaps ≤ 24 * c + r := by omega
  have leaps_high : 24 * c + r ≤ 1460 * leaps + 1459 := by omega
  clear hl hy
  exact ⟨by omega, by omega, by omega, by omega, fun h => ⟨by omega, by omega⟩⟩

theorem inCycle {day year : Int} (h0 : 0 ≤ day) (h1 : day < 146097)
    (hy : year = (day - day / 1460 + day / 36524 - day / 146096) / 365) :
    InCycle year (day - (365 * year + year / 4 - year / 100)) := by
  by_cases last : day = 146096
  · subst last
    subst hy
    constructor <;> decide
  · have hc : 0 ≤ day / 36524 ∧ day / 36524 ≤ 3 := by omega
    have hr : 0 ≤ day % 36524 ∧ day % 36524 < 36524 := by omega
    obtain ⟨nonneg, lt, low, high, leap⟩ := century hc hr rfl rfl
    have split : year = 100 * (day / 36524) +
        (day % 36524 - (24 * (day / 36524) + day % 36524) / 1460) / 365 := by omega
    rw [split]
    generalize (day % 36524 - (24 * (day / 36524) + day % 36524) / 1460) / 365 = y at *
    have h4 : (100 * (day / 36524) + y) / 4 = 25 * (day / 36524) + y / 4 := by omega
    have h100 : (100 * (day / 36524) + y) / 100 = day / 36524 := by omega
    clear hy split
    rw [h4, h100]
    constructor <;> omega

def ofCycle (cycle year day : Int) : Date :=
  let fromMarch := (5 * day + 2) / 153
  let month := if fromMarch < 10 then fromMarch + 3 else fromMarch - 9
  ⟨year + cycle * 400 + (if month ≤ 2 then 1 else 0), month.toNat,
    (day - (153 * fromMarch + 2) / 5 + 1).toNat⟩

theorem ofDays_eq (n : Int) :
    ∃ cycle year day, InCycle year day ∧ ofDays n = ofCycle cycle year day ∧
    n = cycle * 146097 + (year * 365 + year / 4 - year / 100 + day) - epochShift := by
  have h0 : 0 ≤ (n + epochShift) % 146097 := by omega
  have h1 : (n + epochShift) % 146097 < 146097 := by omega
  refine ⟨_, _, _, inCycle h0 h1 rfl, rfl, ?_⟩
  omega

variable {cycle year day : Int}

theorem toDays_ofCycle (h : InCycle year day) : (ofCycle cycle year day).toDays =
    cycle * 146097 + (year * 365 + year / 4 - year / 100 + day) - epochShift := by
  obtain ⟨_, _, _, _, _⟩ := h
  simp only [ofCycle, toDays]
  split <;> split <;> split <;> omega

theorem exists?_ofCycle (h : InCycle year day) : (ofCycle cycle year day).exists? = true := by
  obtain ⟨_, _, _, _, leap⟩ := h
  obtain ⟨m, hm⟩ : ∃ m, (5 * day + 2) / 153 = m := ⟨_, rfl⟩
  have h0 : 0 ≤ m := by omega
  have h11 : m ≤ 11 := by omega
  interval_cases m
  -- only February depends on the year
  case «11» =>
    simp [ofCycle, exists?, monthLength, isLeap, hm]
    split <;> omega
  all_goals
    simp [ofCycle, exists?, monthLength, hm]
    omega

@[simp] theorem toDays_ofDays (n : Int) : (ofDays n).toDays = n := by
  obtain ⟨cycle, year, day, h, hn, hd⟩ := ofDays_eq n
  rw [hn, toDays_ofCycle h, ← hd]

@[simp] theorem exists?_ofDays (n : Int) : (ofDays n).exists? = true := by
  obtain ⟨cycle, year, day, h, hn, _⟩ := ofDays_eq n
  rw [hn]
  exact exists?_ofCycle h

theorem month_lt {d : Date} (h : d.exists? = true) : d.month < 100 := by
  simp only [exists?, Bool.and_eq_true, decide_eq_true_eq] at h
  omega

theorem day_lt {d : Date} (h : d.exists? = true) : d.day < 100 := by
  have hl : monthLength d.year d.month ≤ 31 := by
    unfold monthLength
    split
    · split <;> decide
    · split <;> decide
  simp only [exists?, Bool.and_eq_true, decide_eq_true_eq] at h
  omega

theorem year_ofDays {n : Int} (lower : Instant.minSecs / 86400 ≤ n)
    (upper : n ≤ Instant.maxSecs / 86400) :
    -262143 ≤ (ofDays n).year ∧ (ofDays n).year ≤ 262142 := by
  obtain ⟨cycle, year, day, ⟨_, _, _, _, _⟩, h, hn⟩ := ofDays_eq n
  rw [Instant.minSecs_eq] at lower
  rw [Instant.maxSecs_eq] at upper
  rw [epochShift] at hn
  have hc : -656 ≤ cycle ∧ cycle ≤ 655 := by omega
  rw [h]
  simp only [ofCycle]
  constructor
  · by_cases first : cycle = -656
    · subst first
      split <;> split <;> omega
    · split <;> split <;> omega
  · by_cases last : cycle = 655
    · subst last
      split <;> split <;> omega
    · split <;> split <;> omega

end Date

namespace Text

theorem isBlank_of_isDigit {c : Char} (h : isDigit c = true) : isBlank c = false := by
  simp only [isDigit, Bool.and_eq_true, decide_eq_true_eq, Char.le_def] at h
  have lower : 48 ≤ c.toNat := UInt32.le_iff_toNat_le.1 h.1
  have upper : c.toNat ≤ 57 := UInt32.le_iff_toNat_le.1 h.2
  simp [isBlank]
  omega

end Text

namespace Instant

section Padded

variable {width n : Nat} {r : List Char}

theorem digit_padded {c : Char} (h : c ∈ padded width n) : digit c = true := by
  rcases List.mem_append.1 h with h | h
  · exact Double.isDigit_zeros h
  · exact isDigit_toDigits h

theorem padded_ne_nil (width n : Nat) : padded width n ≠ [] := by
  simp [padded, Nat.toDigits_ne_nil]

theorem head_padded (width n : Nat) : ∃ c cs, padded width n = c :: cs ∧ digit c = true := by
  obtain ⟨c, cs, hc⟩ := List.exists_cons_of_ne_nil (padded_ne_nil width n)
  exact ⟨c, cs, hc, digit_padded (hc ▸ List.mem_cons_self)⟩

theorem number_padded (width n : Nat) : number (padded width n) = n :=
  Double.ofDigitChars_zeros_toDigits n _

theorem length_padded (hw : 0 < width) (h : n < 10 ^ width) : (padded width n).length = width := by
  have hd := (Nat.length_toDigits_le_iff (by decide) hw).2 h
  simp [padded]
  omega

theorem trimStart_padded (width n : Nat) (r : List Char) :
    Text.trimStart (padded width n ++ r) = padded width n ++ r := by
  obtain ⟨c, cs, hc, hd⟩ := head_padded width n
  rw [hc, List.cons_append, Text.trimStart_cons (Text.isBlank_of_isDigit hd)]

theorem readNumber?_of_takeWhile {most : Nat} {ds : List Char} (hn : ds ≠ [])
    (h : ((ds ++ r).take most).takeWhile digit = ds) :
    readNumber? most (ds ++ r) = some (number ds, r) := by
  unfold readNumber?
  split
  · next hnil => exact absurd (h.symm.trans hnil) hn
  · rw [h, List.drop_left]

/-- Whatever comes behind, no more digits are read than were written. -/
theorem readNumber?_padded (hw : 0 < width) (h : n < 10 ^ width) (r : List Char) :
    readNumber? width (padded width n ++ r) = some (n, r) := by
  rw [readNumber?_of_takeWhile (padded_ne_nil width n), number_padded]
  rw [List.take_left' (length_padded hw h)]
  exact List.takeWhile_eq_self_iff.2 fun _ => digit_padded

theorem readNumber?_all (width n : Nat) (hr : Stops digit r) :
    readNumber? (padded width n ++ r).length (padded width n ++ r) = some (n, r) := by
  rw [readNumber?_of_takeWhile (padded_ne_nil width n), number_padded]
  rw [List.take_length]
  exact (takeWhile_of_stops (fun _ => digit_padded) hr).1

theorem stops_cons {c : Char} (h : digit c = false) (r : List Char) : Stops digit (c :: r) := by
  rintro _ ⟨⟩
  exact h

theorem readPart?_padded {c : Char} (hb : Text.isBlank c = false) (h : n < 100) (r : List Char) :
    readPart? c (c :: (padded 2 n ++ r)) = some (n, r) := by
  rw [readPart?, Text.trimStart_cons hb]
  simp only [if_true, trimStart_padded]
  exact readNumber?_padded (by decide) h r

theorem readFraction?_point {ds : List Char} (hd : ∀ c ∈ ds, digit c = true) (hn : ds ≠ [])
    (hr : Stops digit r) :
    readFraction? ('.' :: (ds ++ r)) = some (number ((ds ++ List.replicate 9 '0').take 9), r) := by
  obtain ⟨ht, hw⟩ := takeWhile_of_stops hd hr
  unfold readFraction?
  split
  · next heq =>
    cases heq
    split
    · next h => exact absurd (ht.symm.trans h) hn
    · rw [ht, hw]
  · next h => exact absurd rfl (h _)

theorem readFraction?_padded (width missing : Nat) (hw : 0 < width) (hm : width + missing = 9)
    (h : n < 10 ^ width) (hr : Stops digit r) :
    readFraction? ('.' :: (padded width n ++ r)) = some (n * 10 ^ missing, r) := by
  have hl := length_padded hw h
  have ht : (padded width n ++ List.replicate 9 '0').take 9 =
      padded width n ++ List.replicate missing '0' := by
    rw [List.take_append, hl, List.take_of_length_le (by omega), List.take_replicate,
      show min (9 - width) 9 = missing by omega]
  have hv : number (padded width n ++ List.replicate missing '0') = n * 10 ^ missing := by
    have hp : Nat.ofDigitChars 10 (padded width n) 0 = n := number_padded width n
    show Nat.ofDigitChars 10 _ 0 = _
    rw [Nat.ofDigitChars_append, hp, Nat.ofDigitChars_replicate_zero, Nat.mul_comm]
  rw [readFraction?_point (fun _ => digit_padded) (padded_ne_nil width n) hr, ht, hv]

end Padded

theorem readYear?_writeYear (y : Int) (r : List Char) :
    readYear? (writeYear y ++ '-' :: r) = some (y, '-' :: r) := by
  have hr : Stops digit ('-' :: r) := stops_cons (by decide) r
  unfold writeYear
  split
  · next h =>
    simp only [Bool.and_eq_true, decide_eq_true_eq] at h
    obtain ⟨c, cs, hc, hd⟩ := head_padded 4 y.toNat
    have hy : readNumber? 4 (padded 4 y.toNat ++ '-' :: r) = some (y.toNat, '-' :: r) :=
      readNumber?_padded (by decide) (by omega) _
    rw [hc, List.cons_append] at hy ⊢
    unfold readYear?
    split
    · next heq => exact absurd ((List.cons.inj heq).1 ▸ hd) (by decide)
    · next heq => exact absurd ((List.cons.inj heq).1 ▸ hd) (by decide)
    · rw [hy]
      simp [Int.toNat_of_nonneg h.1]
  · next h =>
    simp only [Bool.and_eq_true, decide_eq_true_eq] at h
    split
    · next negative =>
      simp only [List.cons_append, readYear?, readNumber?_all 4 y.natAbs hr, Option.map_some]
      rw [show (-(y.natAbs : Int)) = y by omega]
    · next positive =>
      simp only [List.cons_append, readYear?, readNumber?_all 4 y.natAbs hr, Option.map_some]
      rw [show (y.natAbs : Int) = y by omega]

theorem trimStart_writeYear (y : Int) (r : List Char) :
    Text.trimStart (writeYear y ++ r) = writeYear y ++ r := by
  unfold writeYear
  split
  · exact trimStart_padded 4 _ r
  · split <;> exact Text.trimStart_cons (by decide) _

theorem readFraction?_of_ne_point {r : List Char} (h : r.head? ≠ some '.') :
    readFraction? r = some (0, r) := by
  unfold readFraction?
  split
  · exact absurd rfl h
  · rfl

/-- What comes behind begins with neither a digit nor a point. -/
theorem readFraction?_writeFraction {n : Nat} {r : List Char} (h : n < 1000000000)
    (hr : Stops digit r)
    (hpoint : r.head? ≠ some '.') : readFraction? (writeFraction n ++ r) = some (n, r) := by
  unfold writeFraction
  split
  · next none =>
    rw [none]
    exact readFraction?_of_ne_point hpoint
  · split
    · next millis =>
      rw [List.cons_append, readFraction?_padded 3 6 (by decide) rfl (by omega) hr]
      rw [show n / 1000000 * 10 ^ 6 = n by omega]
    · split
      · next micros =>
        rw [List.cons_append, readFraction?_padded 6 3 (by decide) rfl (by omega) hr]
        rw [show n / 1000 * 10 ^ 3 = n by omega]
      · rw [List.cons_append, readFraction?_padded 9 0 (by decide) rfl (by omega) hr]
        rw [show n * 10 ^ 0 = n by omega]

theorem ofCivil?_date (t : Instant) :
    ofCivil? t.date ((t.secs % 86400).toNat / 3600) ((t.secs % 86400).toNat / 60 % 60)
      ((t.secs % 86400).toNat % 60 + t.nanos / 1000000000) (t.nanos % 1000000000) 0 = some t := by
  obtain ⟨secs, nanos, min_le, le_max, nanos_lt, inserted⟩ := t
  have hy := Date.year_ofDays (n := secs / 86400) (by omega) (by omega)
  have hsecs : secs / 86400 * 86400 + ((secs % 86400).toNat / 3600 : Nat) * 3600 +
      ((secs % 86400).toNat / 60 % 60 : Nat) * 60 +
      (min ((secs % 86400).toNat % 60 + nanos / 1000000000) 59 : Nat) - 0 = secs := by omega
  have hnanos : (if (secs % 86400).toNat % 60 + nanos / 1000000000 = 60 then
      nanos % 1000000000 + 1000000000 else nanos % 1000000000) = nanos := by
    split <;> omega
  have hsecond : (secs % 86400).toNat % 60 + nanos / 1000000000 ≤ 60 := by omega
  have hhour : (secs % 86400).toNat / 3600 < 24 := by omega
  have hminute : (secs % 86400).toNat / 60 % 60 < 60 := by omega
  simp only [date, ofCivil?, Date.toDays_ofDays, hsecs, hnanos]
  rw [if_pos (by simp [hy, hhour, hminute, hsecond]), ofSecs?,
    dif_pos ⟨min_le, le_max, nanos_lt, inserted⟩]

/-- Every instant comes back from its text, those of inserted seconds included, whatever the mark of
the zone. -/
theorem readList?_write (t : Instant) {zone rest : List Char} (hdigit : Stops digit zone)
    (hpoint : zone.head? ≠ some '.') (offset : readOffset? (Text.trimStart zone) = some (0, rest))
    (blank : Text.allBlank rest = true) : readList? (t.write ++ zone) = some t := by
  have he : t.date.exists? = true := Date.exists?_ofDays _
  have hn := t.nanos_lt
  simp only [write, readList?, List.append_assoc, List.cons_append, trimStart_writeYear,
    readYear?_writeYear, Option.bind_eq_bind, Option.bind_some]
  rw [readPart?_padded (by decide) (Date.month_lt he), Option.bind_some]
  simp only []
  rw [readPart?_padded (by decide) (Date.day_lt he), Option.bind_some]
  simp only [trimStart_padded]
  rw [readNumber?_padded (by decide) (by omega), Option.bind_some]
  simp only []
  rw [readPart?_padded (by decide) (by omega), Option.bind_some]
  simp only []
  rw [readPart?_padded (by decide) (by omega), Option.bind_some]
  simp only []
  rw [readFraction?_writeFraction (by omega) hdigit hpoint, Option.bind_some]
  simp only []
  rw [offset, Option.bind_some]
  simp only [blank, if_true]
  exact ofCivil?_date t

theorem read?_toZulu (t : Instant) : read? t.toZulu = some t := by
  rw [read?, toZulu, String.toList_ofList]
  exact t.readList?_write (stops_cons (by decide) []) (by decide) rfl rfl

theorem read?_toText (t : Instant) : read? t.toText = some t := by
  rw [read?, toText, String.toList_ofList]
  exact t.readList?_write (stops_cons (by decide) _) (by decide) rfl rfl

end Instant

end Herald
