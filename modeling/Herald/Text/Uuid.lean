/-!
Random keys in their usual text: thirty-two hexadecimal digits in five groups, of which one digit
and two bits say that the rest is random.
-/

set_option autoImplicit false

namespace Herald.Uuid

def digit (n : Nat) : Char := Char.ofNat (if n < 10 then 48 + n else 87 + n)

/-- The digits of a number of 128 bits, the greatest first. -/
def digits (n : Nat) : List Char := (List.range 32).map fun i => digit (n >>> (4 * (31 - i)) % 16)

def dashes : List Nat := [8, 13, 18, 23]

def grouped (ds : List Char) : List Char :=
  ds.take 8 ++ '-' :: (ds.drop 8).take 4 ++ '-' :: (ds.drop 12).take 4 ++ '-' ::
    (ds.drop 16).take 4 ++
    '-' :: ds.drop 20

/-- The key for a random number. -/
def ofNumber (n : Nat) : String :=
  let ds := digits n
  String.ofList (grouped ((ds.set 12 '4').set 16 (digit (8 + n >>> 60 % 4))))

def isDigit (c : Char) : Bool := c.isDigit || ('a' ≤ c && c ≤ 'f')

def isText (s : String) : Bool :=
  let cs := s.toList
  cs.length = 36 && cs[14]? = some '4' && ['8', '9', 'a', 'b'].any (fun c => cs[19]? = some c) &&
    cs.zipIdx.all fun e => if dashes.contains e.2 then e.1 = '-' else isDigit e.1

end Herald.Uuid
