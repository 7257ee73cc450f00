import Herald.Proofs.Bag.Fidelity
/-!
Doubles that a text keeps. Few digits with a small power of ten are held exactly, so there is one
rounding only, and the reading comes out at the number that was written.
-/

set_option autoImplicit false

namespace Herald

namespace Json.Literal

theorem append_eq {ds : List Char} {n : Nat} (h : Nat.ofDigitChars 10 ds n < UInt64.size) :
    append n ds = (Nat.ofDigitChars 10 ds n, 0) := by
  induction ds generalizing n with
  | nil => rfl
  | cons c cs ih =>
    have hn : n * 10 + digitValue c = 10 * n + (c.toNat - '0'.toNat) := by
      rw [Nat.mul_comm]
      rfl
    rw [Nat.ofDigitChars_cons] at h ⊢
    rw [append, hn, if_pos (Nat.lt_of_le_of_lt (le_ofDigitChars _ _) h), ih h]

theorem decimal_eq_full {l : Literal} (h : l.full.digits < UInt64.size) : l.decimal = l.full := by
  obtain ⟨negative, w, f, x⟩ := l
  simp only [full, Nat.ofDigitChars_append] at h
  have hw : append 0 w = (Nat.ofDigitChars 10 w 0, 0) :=
    append_eq (Nat.lt_of_le_of_lt (le_ofDigitChars _ _) h)
  cases f with
  | none =>
    simp only [decimal, full, hw, Option.getD_none, List.append_nil, List.length_nil]
    congr 1
    omega
  | some ds =>
    simp only [Option.getD_some] at h
    simp only [decimal, full, hw, append_eq h, Option.getD_some, Nat.ofDigitChars_append]
    congr 1
    omega

end Json.Literal

namespace Decimal

open Double

theorem units_whole {n : Nat} (h : n < 2 * binade) : units (nearestRank n 1) = n * unitDen :=
  units_nearestRank h 0

theorem units_power {k : Nat} (h : k ≤ 22) :
    units (nearestRank (Nat.pow 10 k) 1) = Nat.pow 10 k * unitDen := by
  have hfive : 5 ^ k < 2 * binade :=
    Nat.lt_of_le_of_lt (Nat.pow_le_pow_right (by decide) h) (by decide)
  have hten : Nat.pow 10 k = 5 ^ k <<< k := by rw [Nat.pow_eq, Nat.shiftLeft_eq, ← Nat.mul_pow]
  rw [hten, units_nearestRank hfive]

theorem overPower_exact {n k : Nat} (hn : n < 2 * binade) (hk : k ≤ 22) :
    overPower (nearestRank n 1) k = nearestRank n (Nat.pow 10 k) := by
  rw [overPower, units_power hk, units_whole hn]
  exact nearestRank_mul unitDen_pos n (Nat.pow 10 k)

theorem timesPower_exact {n k : Nat} (hn : n < 2 * binade) (hk : k ≤ 22) :
    timesPower (nearestRank n 1) k = nearestRank (n * Nat.pow 10 k) 1 := by
  have h := nearestRank_mul (Nat.mul_pos unitDen_pos unitDen_pos) (n * Nat.pow 10 k) 1
  rw [timesPower, units_power hk, units_whole hn]
  generalize unitDen = u at *
  rwa [Nat.one_mul, ← Nat.mul_mul_mul_comm] at h

/-- Digits that 53 bits hold, with a power of ten that is held exactly, are read as the nearest
number. -/
theorem scaled?_exact (negative : Bool) {d : Decimal} (digits : d.digits < 2 * binade)
    (small : d.exponent.natAbs ≤ 22) (finite : d.rank < count) :
    scaled? negative d = some (.finite negative ⟨d.rank, finite⟩) := by
  have hrank : (if d.exponent < 0 then overPowers (nearestRank d.digits 1) (-d.exponent).toNat
      else if nearestRank d.digits 1 = 0 then 0
      else if d.exponent ≤ stepLimit then timesPower (nearestRank d.digits 1) d.exponent.toNat
      else count) = d.rank := by
    have hlimit : (stepLimit : Int) = 308 := rfl
    split
    · next he =>
      have hk : (-d.exponent).toNat ≤ 22 := by omega
      rw [overPowers, if_pos (by omega), overPower_exact digits hk, rank, if_neg (by omega)]
    · next he =>
      have hr : timesPower (nearestRank d.digits 1) d.exponent.toNat = d.rank := by
        rw [timesPower_exact digits (by omega), rank, if_pos (by omega)]
      split
      · next h0 =>
        rw [← hr, h0, timesPower, units_of_small (by decide), Nat.zero_mul, nearestRank_zero]
      · rw [if_pos (by omega), hr]
  simp only [scaled?, hrank]
  rw [dif_pos finite]

end Decimal

namespace Double

open Json

def IsShort : Double → Prop
  | .finite _ r => (Decimal.shortest .even r).shown.digits < 2 * binade ∧
      (Decimal.shortest .even r).shown.exponent.natAbs ≤ 22
  | .nan | .infinite _ => False

instance : DecidablePred IsShort
  | .finite _ _ => inferInstanceAs (Decidable (_ ∧ _))
  | .nan | .infinite _ => inferInstanceAs (Decidable False)

theorem kept_of_isShort {d : Double} (h : d.IsShort) : (Number.double d).kept = true := by
  cases d with
  | nan | infinite => cases h
  | finite negative r =>
    obtain ⟨digits, small⟩ := h
    obtain ⟨l, hfull, hread⟩ := ofNumber_finite negative r
    have hl : l.full.digits < 2 * binade ∧ l.full.exponent.natAbs ≤ 22 ∧ l.full.rank = r := by
      rw [hfull]
      split
      · next h0 => exact ⟨by decide, by decide, (Decimal.rank_zero _).trans h0.symm⟩
      · exact ⟨digits, small, (Decimal.rank_shown _).trans (Decimal.rank_shortest _ _)⟩
    obtain ⟨hdigits, hsmall, hrank⟩ := hl
    have hsize : 2 * binade < UInt64.size := by decide
    have hdecimal : l.decimal = l.full := Literal.decimal_eq_full (Nat.lt_trans hdigits hsize)
    have hexact := Decimal.scaled?_exact negative hdigits hsmall (hrank ▸ r.isLt)
    simp only [hrank] at hexact
    have hsame : (Double.finite negative r).same (.finite negative r) = true := same_self (by simp)
    rw [Number.kept, hread, hdecimal, hexact]
    exact hsame

/-- A tenth and a large whole number are short. -/
example : IsShort (.finite true ⟨1019 * binade + 2702159776422298, by decide⟩) ∧
    IsShort (.ofInt 123456789012345) := by
  decide +kernel

end Double

namespace Bag

theorem kept_of_isShort {b : Bag} {room : Nat} (h : 2 ≤ room)
    (noJson : ∀ k j, (k, .json j) ∉ b.entries)
    (short : ∀ k d, (k, .double d) ∈ b.entries → d.IsShort) : b.Kept room := by
  rintro ⟨k, v⟩ he
  cases v with
  | text | integer | boolean => exact ⟨rfl, h⟩
  | double d => exact ⟨Double.kept_of_isShort (short k d he), h⟩
  | json j => exact absurd he (noJson k j)

end Bag

end Herald
