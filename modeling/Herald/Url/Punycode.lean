/-!
The ASCII form of a label: its ASCII characters, and behind a hyphen where and which the others are,
as numbers in a base of thirty-six with a threshold that moves.
-/

set_option autoImplicit false

namespace Herald.Url.Punycode

def digit (n : Nat) : Char := Char.ofNat (if n < 26 then 97 + n else 22 + n)

def digitValue? (c : Char) : Option Nat :=
  if 'a' ≤ c && c ≤ 'z' then some (c.toNat - 97)
  else if '0' ≤ c && c ≤ '9' then some (c.toNat - 22)
  else none

/-- From which value on a digit is not the last one of its number, at places `k` = 36, 72 and so
on. -/
def threshold (bias k : Nat) : Nat := if k ≤ bias then 1 else if bias + 26 ≤ k then 26 else k - bias

theorem one_le_threshold (bias k : Nat) : 1 ≤ threshold bias k := by grind [threshold]

def shrink (delta k : Nat) : Nat × Nat :=
  if 455 < delta then shrink (delta / 35) (k + 36) else (delta, k)
termination_by delta
decreasing_by omega

/-- The bias after a number, when so many characters are placed. -/
def adapt (delta count : Nat) (isFirst : Bool) : Nat :=
  let delta := if isFirst then delta / 700 else delta / 2
  let (delta, k) := shrink (delta + delta / count) 0
  k + 36 * delta / (delta + 38)

def writeDelta (bias k q : Nat) : List Char :=
  let t := threshold bias k
  if q < t then [digit q]
  else digit (t + (q - t) % (36 - t)) :: writeDelta bias (k + 36) ((q - t) / (36 - t))
termination_by q
decreasing_by
  have := one_le_threshold bias k
  have := Nat.div_le_self (q - threshold bias k) (36 - threshold bias k)
  omega

structure Writer where
  delta : Nat
  bias : Nat
  handled : Nat
  out : List Char

/-- One character of the label, while the character `m` is being placed. -/
def Writer.pass (m basic : Nat) (s : Writer) (c : Nat) : Writer :=
  if c < m then { s with delta := s.delta + 1 }
  else if c = m then
    { delta := 0, bias := adapt s.delta (s.handled + 1) (s.handled == basic),
      handled := s.handled + 1, out := s.out ++ writeDelta s.bias 36 s.delta }
  else s

/-- Places the characters `ms` of the label one after another; all below `n` are placed. -/
def Writer.placeAll (label : List Nat) (basic : Nat) : List Nat → Nat → Writer → Writer
  | [], _, s => s
  | m :: ms, n, s =>
    let s := label.foldl (Writer.pass m basic)
      { s with delta := s.delta + (m - n) * (s.handled + 1) }
    placeAll label basic ms (m + 1) { s with delta := s.delta + 1 }

def isAscii (c : Char) : Bool := c.toNat < 0x80

def write (label : List Char) : List Char :=
  let basic := label.filter isAscii
  let points := label.map Char.toNat
  let others := ((points.filter (0x80 ≤ ·)).mergeSort).eraseReps
  let start := if basic = [] then [] else basic ++ ['-']
  (Writer.placeAll points basic.length others 0x80 ⟨0, 72, basic.length, start⟩).out

/-- Numbers have to be below it on the way. -/
def wordLimit : Nat := 4294967296

def readDelta? (bias : Nat) : Nat → Nat → Nat → List Char → Option (Nat × List Char)
  | _, _, _, [] => none
  | k, w, i, c :: r => do
    let d ← digitValue? c
    let t := threshold bias k
    if wordLimit ≤ i + d * w then none
    else if d < t then some (i + d * w, r)
    else if wordLimit ≤ w * (36 - t) then none
    else readDelta? bias (k + 36) (w * (36 - t)) (i + d * w) r

theorem length_lt_of_readDelta? {bias k w i j : Nat} {s r : List Char}
    (h : readDelta? bias k w i s = some (j, r)) : r.length < s.length := by
  induction s generalizing k w i with
  | nil => simp [readDelta?] at h
  | cons c s ih =>
    simp only [readDelta?, Option.bind_eq_bind, Option.bind_eq_some_iff] at h
    obtain ⟨d, -, h⟩ := h
    grind

/-- Puts the characters that the numbers describe into `out`, from the code point `n` and the place
`i` on. -/
def readFrom (n i bias : Nat) (out s : List Char) : Option (List Char) :=
  if s = [] then some out
  else
    match _h : readDelta? bias 36 1 i s with
    | none => none
    | some (j, r) =>
      let count := out.length + 1
      let m := n + j / count
      if m.isValidChar then
        readFrom m (j % count + 1) (adapt (j - i) count (i == 0))
          (out.take (j % count) ++ Char.ofNat m :: out.drop (j % count)) r
      else none
termination_by s.length
decreasing_by exact length_lt_of_readDelta? _h

/-- The label of which this is the ASCII form; the last hyphen parts it. -/
def read? (s : List Char) : Option (List Char) :=
  let tail := (s.reverse.takeWhile (· ≠ '-')).reverse
  match s.take (s.length - tail.length) with
  | [] => readFrom 0x80 0 72 [] s
  | '-' :: [] => none
  | front => if front.all isAscii then readFrom 0x80 0 72 front.dropLast tail else none

end Herald.Url.Punycode
