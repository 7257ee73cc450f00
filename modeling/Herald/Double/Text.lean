import Herald.Double.Decimal
/-!
How numbers are written: which are written out in full, what marks a whole one, and how an
exponent looks.
-/

set_option autoImplicit false

namespace Herald.Double

structure Style where
  /-- Whether a number whose first digit counts `10 ^ x` is written without an exponent. -/
  inFull : Int → Bool
  /-- Follows the digits of a whole number. -/
  wholeMark : String
  tie : Decimal.Tie

/-- The style of JSON documents. -/
def Style.document : Style := ⟨fun x => -5 ≤ x && x ≤ 15, ".0", .even⟩

/-- The style of text that people read: no exponent, and no fraction unless there is one. -/
def Style.plain : Style := ⟨fun _ => true, "", .up⟩

def zeros (n : Nat) : List Char := List.replicate n '0'

def exponentText (x : Int) : List Char :=
  'e' :: (if x < 0 then '-' else '+') :: Nat.toDigits 10 x.natAbs

def Style.layout (s : Style) (d : Decimal) : List Char :=
  let ds := Nat.toDigits 10 d.digits
  let first : Int := ds.length + d.exponent - 1
  if s.inFull first then
    if 0 ≤ d.exponent then ds ++ zeros d.exponent.toNat ++ s.wholeMark.toList
    else if 0 ≤ first then ds.take (first.toNat + 1) ++ '.' :: ds.drop (first.toNat + 1)
    else '0' :: '.' :: zeros (-first - 1).toNat ++ ds
  else match ds with
    | [c] => c :: exponentText first
    | cs => cs.take 1 ++ '.' :: cs.drop 1 ++ exponentText first

def write (s : Style) : Double → List Char
  | .nan => "NaN".toList
  | .infinite b => if b then "-inf".toList else "inf".toList
  | .finite b r =>
    let body := if r.val = 0 then '0' :: s.wholeMark.toList else s.layout (Decimal.shortest s.tie r)
    if b then '-' :: body else body

def text (d : Double) : String := String.ofList (d.write .plain)

end Herald.Double
