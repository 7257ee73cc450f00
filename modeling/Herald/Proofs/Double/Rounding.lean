import Herald.Double.Decimal
/-!
Rounding to the nearest number. A quotient that a number hits is rounded to that number, so whole
numbers of 53 bits are held exactly; the digits that are written of a number are rounded to it
again.
-/

set_option autoImplicit false

namespace Herald

namespace Double

variable {k num den r : Nat}

theorem roundQuotient_mul (h : 0 < k) (a b : Nat) :
    roundQuotient (k * a) (k * b) = roundQuotient a b := by
  have hl : 2 * (k * (a % b)) < k * b ↔ 2 * (a % b) < b := by
    rw [Nat.mul_left_comm, Nat.mul_lt_mul_left h]
  have hg : k * b < 2 * (k * (a % b)) ↔ b < 2 * (a % b) := by
    rw [Nat.mul_left_comm, Nat.mul_lt_mul_left h]
  simp only [roundQuotient, Nat.mul_div_mul_left a b h, Nat.mul_mod_mul_left, hl, hg]

theorem roundQuotient_exact (h : 0 < den) (q : Nat) : roundQuotient (q * den) den = q := by
  simp only [roundQuotient, Nat.mul_div_cancel q h, Nat.mul_mod_left, Nat.mul_zero, h, if_true]

theorem nearestRank_mul (h : 0 < k) (num den : Nat) :
    nearestRank (num * k) (den * k) = nearestRank num den := by
  simp only [Nat.mul_comm _ k, nearestRank, Nat.shiftLeft_eq, Nat.mul_assoc, roundQuotient_mul h,
    Nat.mul_div_mul_left _ _ h]

theorem nearestRank_zero (den : Nat) : nearestRank 0 den = 0 := by
  simp [nearestRank, roundQuotient, Nat.log2_def]

theorem shiftLeft_eq_mul (n : Nat) : n <<< 1074 = n * unitDen := by
  rw [unitDen, Nat.one_shiftLeft, Nat.shiftLeft_eq]

theorem unitDen_pos : 0 < unitDen := by
  rw [unitDen, Nat.one_shiftLeft]
  exact Nat.two_pow_pos 1074

theorem log2_eq_iff (m : Nat) : m.log2 = 52 ↔ binade ≤ m ∧ m < 2 * binade := by
  by_cases h : m = 0
  · subst h
    decide
  · exact Nat.log2_eq_iff h

theorem log2_shiftLeft {n : Nat} (h : n ≠ 0) (s : Nat) : (n <<< s).log2 = n.log2 + s := by
  induction s with
  | zero => rfl
  | succ s ih =>
    have hn : n <<< s ≠ 0 := by
      rw [Nat.shiftLeft_eq]
      exact Nat.mul_ne_zero h (Nat.pos_iff_ne_zero.1 (Nat.two_pow_pos s))
    rw [Nat.shiftLeft_succ, Nat.log2_two_mul hn, ih, Nat.add_assoc]

theorem units_of_small (h : r < 2 * binade) : units r = r := by
  have hs : shift r = 0 := by
    simp only [shift, binade] at *
    omega
  simp only [units, mantissa, hs, Nat.zero_mul, Nat.sub_zero, Nat.shiftLeft_zero]

theorem units_add {m : Nat} (h : m.log2 = 52) (s : Nat) : units (s * binade + m) = m <<< s := by
  have hs : shift (s * binade + m) = s := by
    obtain ⟨lower, upper⟩ := (log2_eq_iff m).1 h
    simp only [shift, binade] at *
    omega
  simp only [units, mantissa, hs, Nat.add_sub_cancel_left]

theorem log2_units (r : Nat) : (units r).log2 - 52 = shift r := by
  by_cases hr : r < 2 * binade
  · have hs : shift r = 0 := by
      simp only [shift, binade] at *
      omega
    have hlog : r.log2 < 53 := by
      by_cases h0 : r = 0
      · subst h0
        decide
      · exact (Nat.log2_lt h0).2 hr
    rw [units_of_small hr, hs]
    omega
  · have hm : (mantissa r).log2 = 52 := by
      rw [log2_eq_iff]
      simp only [mantissa, shift, binade] at *
      omega
    have h0 : mantissa r ≠ 0 := by
      intro h0
      rw [h0] at hm
      exact absurd hm (by decide)
    rw [units, log2_shiftLeft h0, hm]
    omega

/-- A quotient that some number hits is rounded to that number. -/
theorem nearestRank_of_units (hd : 0 < den) (h : num * unitDen = units r * den) :
    nearestRank num den = r := by
  have hq : num <<< 1074 / den = units r := by rw [shiftLeft_eq_mul, h, Nat.mul_div_cancel _ hd]
  have hn : num <<< 1074 = mantissa r * (den <<< shift r) := by
    rw [shiftLeft_eq_mul, h, units, Nat.shiftLeft_eq, Nat.shiftLeft_eq, Nat.mul_assoc,
      Nat.mul_comm den]
  have hpos : 0 < den <<< shift r := by
    rw [Nat.shiftLeft_eq]
    exact Nat.mul_pos hd (Nat.two_pow_pos _)
  rw [nearestRank, hq, log2_units, hn, roundQuotient_exact hpos, ← rank_eq]

theorem exists_units {a t : Nat} (h : a < 2 * binade) (ht : 53 ≤ t) : ∃ r, units r = a <<< t := by
  by_cases h0 : a = 0
  · have hu : units 0 = 0 := units_of_small (by decide)
    exact ⟨0, by rw [h0, Nat.zero_shiftLeft, hu]⟩
  · have hl : a.log2 < 53 := (Nat.log2_lt h0).2 h
    have hs : t = 52 - a.log2 + (t - (52 - a.log2)) := by omega
    have hm : (a <<< (52 - a.log2)).log2 = 52 := by
      rw [log2_shiftLeft h0]
      omega
    exact ⟨_, (units_add hm _).trans (by rw [← Nat.shiftLeft_add, ← hs])⟩

theorem units_nearestRank {a : Nat} (h : a < 2 * binade) (b : Nat) :
    units (nearestRank (a <<< b) 1) = (a <<< b) * unitDen := by
  obtain ⟨r, hr⟩ := exists_units h (show 53 ≤ b + 1074 by omega)
  rw [Nat.shiftLeft_add, shiftLeft_eq_mul] at hr
  rw [nearestRank_of_units Nat.one_pos (by rw [← hr, Nat.mul_one]), hr]

end Double

namespace Decimal

open Double

theorem rank_zero (e : Int) : rank ⟨0, e⟩ = 0 := by
  simp [rank, nearestRank_zero]

theorem rank_tens (n k : Nat) (e : Int) : rank ⟨n * Nat.pow 10 k, e⟩ = rank ⟨n, e + k⟩ := by
  simp only [rank, Nat.pow_eq]
  split
  · next he =>
    have hk : (e + k).toNat = k + e.toNat := by omega
    rw [if_pos (by omega), hk, Nat.pow_add, Nat.mul_assoc]
  · next he =>
    split
    · next hk =>
      have hsum : k = (e + k).toNat + (-e).toNat := by omega
      generalize (e + k).toNat = a at *
      have hp : 0 < 10 ^ (-e).toNat := Nat.pow_pos (by decide)
      have h := nearestRank_mul hp (n * 10 ^ a) 1
      rwa [Nat.one_mul, Nat.mul_assoc, ← Nat.pow_add, ← hsum] at h
    · next hk =>
      have hsum : (-e).toNat = (-(e + k)).toNat + k := by omega
      rw [hsum, Nat.pow_add, nearestRank_mul (Nat.pow_pos (by decide))]

theorem rank_stripZeros (n : Nat) (e : Int) : rank (stripZeros n e) = rank ⟨n, e⟩ := by
  fun_induction stripZeros n e with
  | case1 n e h ih =>
    have hn : n / 10 * Nat.pow 10 1 = n := by
      show n / 10 * 10 = n
      omega
    have ht := rank_tens (n / 10) 1 e
    rw [hn] at ht
    exact ih.trans ht.symm
  | case2 n e h => rfl

theorem rank_fives (u : Nat) {n : Nat} (h : 0 < n) :
    rank ⟨u * Nat.pow 5 n, -n⟩ = nearestRank u (1 <<< n) := by
  have ht : (10 : Nat) ^ n = 5 ^ n * 2 ^ n := by rw [← Nat.mul_pow]
  have hn : (-(-n : Int)).toNat = n := by omega
  simp only [rank, Nat.pow_eq, Nat.one_shiftLeft]
  rw [if_neg (by omega), hn, ht, Nat.mul_comm (5 ^ n), nearestRank_mul (Nat.pow_pos (by decide))]

theorem rank_exact (r : Nat) : rank (exact r) = r := by
  rw [exact, rank_stripZeros]
  generalize hn : (1074 : Nat) = n
  have he : (-1074 : Int) = -n := by omega
  rw [he, rank_fives (units r) (by omega), ← hn]
  exact nearestRank_of_units unitDen_pos rfl

/-- The digits that are written always stand for the number. -/
theorem rank_shortest (tie : Tie) (r : Nat) : rank (shortest tie r) = r := by
  have hgrid : ∀ n d, onGrid? tie r n = some d → rank d = r := by
    intro n d hd
    simp only [onGrid?] at hd
    generalize below r (magnitude r - n) = b at hd
    obtain ⟨lo, twice, den⟩ := b
    simp only at hd
    split at hd
    · next hc =>
      cases hd
      exact (rank_stripZeros _ _).trans hc.1
    · split at hd
      · next hc =>
        cases hd
        exact (rank_stripZeros _ _).trans hc
      · cases hd
  unfold shortest
  cases hs : (List.range 17).findSome? fun n => onGrid? tie r (n + 1) with
  | some d =>
    obtain ⟨n, _, hn⟩ := List.exists_of_findSome?_eq_some hs
    exact hgrid _ d hn
  | none => rw [Option.getD_none, rank_exact]

end Decimal

end Herald
