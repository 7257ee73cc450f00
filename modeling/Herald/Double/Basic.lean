/-!
Binary floating point numbers of 64 bits, without their machine form. The finite ones of one sign
are counted off from zero upward: number `r` is `mantissa r * 2 ^ shift r` units, a unit being
`2 ^ -1074`. Every step of arithmetic is an exact quotient of naturals, rounded once.
-/

set_option autoImplicit false

namespace Herald

/-- How many numbers lie from one power of two up to the next: `2 ^ 52`. -/
abbrev Double.binade : Nat := 4503599627370496

abbrev Double.count : Nat := 2047 * Double.binade

inductive Double where
  | nan
  | infinite (negative : Bool)
  | finite (negative : Bool) (rank : Fin Double.count)
  deriving DecidableEq, Repr

namespace Double

def zero : Double := .finite false ⟨0, by decide⟩

instance : Inhabited Double := ⟨zero⟩

/-- One unit, `2 ^ -1074`, is this part of one. -/
abbrev unitDen : Nat := 1 <<< 1074

def shift (rank : Nat) : Nat := rank / binade - 1

def mantissa (rank : Nat) : Nat := rank - shift rank * binade

theorem rank_eq (rank : Nat) : rank = shift rank * binade + mantissa rank := by
  simp only [mantissa, shift, binade]; omega

def units (rank : Nat) : Nat := mantissa rank <<< shift rank

/-- Nearest natural to a quotient; a half goes to the even neighbour. -/
def roundQuotient (num den : Nat) : Nat :=
  let q := num / den
  let r := num % den
  if 2 * r < den then q else if den < 2 * r then q + 1 else q + q % 2

/-- The rank of the number nearest to `num / den`, as if ranks went on without end. -/
def nearestRank (num den : Nat) : Nat :=
  let n := num <<< 1074
  let k := (n / den).log2 - 52
  k * binade + roundQuotient n (den <<< k)

def ofQuotient? (negative : Bool) (num den : Nat) : Option Double :=
  let r := nearestRank num den
  if h : r < count then some (.finite negative ⟨r, h⟩) else none

def same : Double → Double → Bool
  | .infinite s, .infinite t => s == t
  | .finite s r, .finite t q => r == q && (s == t || r.val == 0)
  | _, _ => false

def isFinite : Double → Bool
  | .finite _ _ => true
  | _ => false

theorem same_self {d : Double} (h : d ≠ .nan) : d.same d = true := by
  cases d <;> simp_all [same]

/-- The integer, rounded to the nearest number; every integer of 64 bits is in range. -/
def ofInt (i : Int) : Double := (ofQuotient? (i < 0) i.natAbs 1).getD zero

end Double

end Herald
