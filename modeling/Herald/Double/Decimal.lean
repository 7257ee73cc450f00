import Herald.Double.Basic
/-!
Decimals `digits * 10 ^ exponent` and their numbers. `nearest?` rounds once. `scaled?` is the
reading that JSON documents get: the digits are rounded, then multiplied or divided by a power of
ten which is itself rounded, so the answer may be a neighbour of the nearest number. `shortest` is
the way back: the fewest digits whose nearest number is the given one.
-/

set_option autoImplicit false

namespace Herald

structure Decimal where
  digits : Nat
  exponent : Int
  deriving DecidableEq, Repr

namespace Decimal

def rank (d : Decimal) : Nat :=
  if 0 ≤ d.exponent then Double.nearestRank (d.digits * Nat.pow 10 d.exponent.toNat) 1
  else Double.nearestRank d.digits (Nat.pow 10 (-d.exponent).toNat)

/-- The greatest power of ten that one step multiplies or divides by. -/
def stepLimit : Nat := 308

def timesPower (rank n : Nat) : Nat :=
  Double.nearestRank (Double.units rank * Double.units (Double.nearestRank (Nat.pow 10 n) 1))
    (Double.unitDen * Double.unitDen)

def overPower (rank n : Nat) : Nat :=
  Double.nearestRank (Double.units rank) (Double.units (Double.nearestRank (Nat.pow 10 n) 1))

/-- Divides by `10 ^ n`, at most `stepLimit` powers at a time, until zero is reached. -/
def overPowers (rank n : Nat) : Nat :=
  if n ≤ stepLimit then overPower rank n
  else if rank = 0 then 0
  else overPowers (overPower rank stepLimit) (n - stepLimit)
termination_by n
decreasing_by simp_all [stepLimit]; omega

def scaled? (negative : Bool) (d : Decimal) : Option Double :=
  let r := Double.nearestRank d.digits 1
  let r' :=
    if d.exponent < 0 then overPowers r (-d.exponent).toNat
    else if r = 0 then 0
    else if d.exponent ≤ stepLimit then timesPower r d.exponent.toNat
    else Double.count
  if h : r' < Double.count then some (.finite negative ⟨r', h⟩) else none

def stripZeros (digits : Nat) (exponent : Int) : Decimal :=
  if h : digits ≠ 0 ∧ digits % 10 = 0 then stripZeros (digits / 10) (exponent + 1)
  else ⟨digits, exponent⟩
termination_by digits
decreasing_by omega

/-- How an exact tie between two neighbouring decimals is settled. -/
inductive Tie where
  | even
  | up
  deriving DecidableEq, Repr

def wideDigits : Nat := 400

/-- The `E` with `10 ^ (E - 1) ≤ x < 10 ^ E`, where `x` is the number of that rank. -/
def magnitude (rank : Nat) : Int :=
  (Nat.toDigits 10 ((Double.units rank * Nat.pow 10 wideDigits) >>> 1074)).length -
    (wideDigits : Int)

/-- The neighbours of the number on the grid of `n` digits: the one below, and twice the distance
to it as a numerator over a denominator. -/
def below (rank : Nat) (exponent : Int) : Nat × Nat × Nat :=
  let num := if 0 ≤ exponent then Double.units rank
    else Double.units rank * Nat.pow 10 (-exponent).toNat
  let den := if 0 ≤ exponent then Double.unitDen * Nat.pow 10 exponent.toNat else Double.unitDen
  (num / den, 2 * (num % den), den)

/-- The decimal of `n` digits that reads as `rank` and is nearest to it. -/
def onGrid? (tie : Tie) (rank n : Nat) : Option Decimal :=
  let e := magnitude rank - n
  let (lo, twice, den) := below rank e
  let loReads := Decimal.rank ⟨lo, e⟩ = rank
  let hiReads := Decimal.rank ⟨lo + 1, e⟩ = rank
  let takeHi := den < twice ∨ (twice = den ∧ (tie = .up ∨ lo % 2 = 1))
  if loReads ∧ ¬ (hiReads ∧ takeHi) then some (stripZeros lo e)
  else if hiReads then some (stripZeros (lo + 1) e)
  else none

def exact (rank : Nat) : Decimal := stripZeros (Double.units rank * Nat.pow 5 1074) (-1074)

/-- The fewest digits that read as `rank`; seventeen always do. -/
def shortest (tie : Tie) (rank : Nat) : Decimal :=
  ((List.range 17).findSome? fun n => onGrid? tie rank (n + 1)).getD (exact rank)

end Decimal

end Herald
