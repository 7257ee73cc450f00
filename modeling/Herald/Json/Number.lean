import Herald.Json.Basic
import Herald.Double.Decimal
/-!
Number literals. A literal without point and exponent is an integer if 64 bits hold it, signed or
not; every other one is a double, of which only the digits that 64 bits hold are read.
-/

set_option autoImplicit false

namespace Herald.Json

/-- A literal in its parts; the digits are characters `0` to `9`. -/
structure Literal where
  negative : Bool
  whole : List Char
  fraction : Option (List Char)
  exponent : Option Int
  deriving DecidableEq, Repr

def digitValue (c : Char) : Nat := c.toNat - 48

def digitsValue (ds : List Char) : Nat := ds.foldl (fun n c => 10 * n + digitValue c) 0

namespace Literal

/-- Appends digits to `n` as long as 64 bits hold the result, and answers how many were left. -/
def append (n : Nat) : List Char → Nat × Nat
  | [] => (n, 0)
  | c :: cs =>
    if n * 10 + digitValue c < UInt64.size then append (n * 10 + digitValue c) cs
    else (n, cs.length + 1)

/-- The digits that are read, with the exponent that their place gives them. -/
def decimal (l : Literal) : Decimal :=
  let (w, lost) := append 0 l.whole
  let (n, kept) := match l.fraction with
    | none => (w, 0)
    | some f => let (n, left) := append w f; (n, f.length - left)
  ⟨n, (lost : Int) - kept + l.exponent.getD 0⟩

def number? (l : Literal) : Option Number :=
  let n := digitsValue l.whole
  match l.fraction, l.exponent with
  | none, none =>
    if !l.negative && n < UInt64.size then some (.integer n)
    else if l.negative && 0 < n && n ≤ 9223372036854775808 then some (.integer (-n))
    else (Decimal.scaled? l.negative l.decimal).map .double
  | _, _ => (Decimal.scaled? l.negative l.decimal).map .double

end Literal

def isDigit (c : Char) : Bool := '0' ≤ c && c ≤ '9'

def readDigits (s : List Char) : Option (List Char × List Char) :=
  match s.takeWhile isDigit with
  | [] => none
  | ds => some (ds, s.dropWhile isDigit)

def readWhole : List Char → Option (List Char × List Char)
  | '0' :: r => if (r.takeWhile isDigit).isEmpty then some (['0'], r) else none
  | s => readDigits s

def readFraction : List Char → Option (Option (List Char) × List Char)
  | '.' :: r => (readDigits r).map fun (ds, r) => (some ds, r)
  | s => some (none, s)

def readExponent : List Char → Option (Option Int × List Char)
  | c :: r =>
    if c = 'e' || c = 'E' then
      match r with
      | '-' :: r => (readDigits r).map fun (ds, r) => (some (-(digitsValue ds : Int)), r)
      | '+' :: r => (readDigits r).map fun (ds, r) => (some (digitsValue ds : Int), r)
      | r => (readDigits r).map fun (ds, r) => (some (digitsValue ds : Int), r)
    else some (none, c :: r)
  | [] => some (none, [])

def readUnsigned (negative : Bool) (s : List Char) : Option (Literal × List Char) := do
  let (w, s) ← readWhole s
  let (f, s) ← readFraction s
  let (e, s) ← readExponent s
  return (⟨negative, w, f, e⟩, s)

def readLiteral : List Char → Option (Literal × List Char)
  | '-' :: r => readUnsigned true r
  | s => readUnsigned false s

end Herald.Json
