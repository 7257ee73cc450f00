import Herald.Text.Lines
import Herald.Url.Basic
import Herald.Url.Domain
/-!
Reading the host of an address: a number of either kind, or a domain.
-/

set_option autoImplicit false

namespace Herald.Url

def hexDigit? (c : Char) : Option Nat :=
  if '0' ≤ c && c ≤ '9' then some (c.toNat - 48)
  else if 'a' ≤ c && c ≤ 'f' then some (c.toNat - 87)
  else if 'A' ≤ c && c ≤ 'F' then some (c.toNat - 55)
  else none

/-- Digits of a base up to sixteen; no digit is zero. -/
def digits? (base : Nat) (s : List Char) : Option Nat :=
  s.foldl (fun acc c => do
    let n ← acc
    let d ← hexDigit? c
    if d < base then some (n * base + d) else none) (some 0)

/-- Bytes with the escapes resolved; a percent sign without two digits stands for itself. -/
def unescape : List UInt8 → List UInt8
  | 37 :: a :: b :: r =>
    match hexDigit? (Char.ofNat a.toNat), hexDigit? (Char.ofNat b.toNat) with
    | some x, some y => .ofNat (x * 16 + y) :: unescape r
    | _, _ => 37 :: unescape (a :: b :: r)
  | c :: r => c :: unescape r
  | [] => []
termination_by s => s.length

def ipv4Part? (s : List Char) : Option Nat :=
  match s with
  | [] => none
  | '0' :: 'x' :: r | '0' :: 'X' :: r => digits? 16 r
  | '0' :: c :: r => digits? 8 (c :: r)
  | s => digits? 10 s

/-- The parts between points; one empty part at the end does not count. -/
def ipv4Parts (s : List Char) : List (List Char) :=
  let ps := Text.splitOnChar '.' s
  if 1 < ps.length && ps.getLast? = some [] then ps.dropLast else ps

/-- A host whose last part looks like a number is one, or is wrong. -/
def endsInNumber (s : List Char) : Bool :=
  match (ipv4Parts s).getLast? with
  | none | some [] => false
  | some l =>
    l.all (fun c => '0' ≤ c && c ≤ '9') ||
      ((l.take 2 = ['0', 'x'] || l.take 2 = ['0', 'X']) && (digits? 16 (l.drop 2)).isSome)

/-- All parts but the last are bytes; the last fills what is left. -/
def ipv4? (s : List Char) : Option Nat := do
  let ns ← (ipv4Parts s).mapM ipv4Part?
  let last ← ns.getLast?
  let front := ns.dropLast
  if ns.length ≤ 4 && front.all (· < 256) && last < 1 <<< (8 * (5 - ns.length)) then
    some ((front.zipIdx.map fun (n, i) => n <<< (8 * (3 - i))).foldl (· + ·) last)
  else none

def byte? (s : List Char) : Option Nat :=
  match s with
  | ['0'] => some 0
  | '0' :: _ | [] => none
  | s => (digits? 10 s).bind fun n => if n < 256 then some n else none

def ipv6Piece? (s : List Char) : Option Nat :=
  if 1 ≤ s.length && s.length ≤ 4 then digits? 16 s else none

def ipv6Run? (s : List Char) : Option (List Nat) :=
  if s = [] then some []
  else
    let ps := Text.splitOnChar ':' s
    match ps.getLast? with
    | none => none
    | some l =>
      if l.contains '.' then do
        let front ← ps.dropLast.mapM ipv6Piece?
        match ← (Text.splitOnChar '.' l).mapM byte? with
        | [a, b, c, d] => some (front ++ [a * 256 + b, c * 256 + d])
        | _ => none
      else ps.mapM ipv6Piece?

def splitGap? : List Char → Option (List Char × List Char)
  | ':' :: ':' :: r => some ([], r)
  | c :: r => (splitGap? r).map fun p => (c :: p.1, p.2)
  | [] => none

def ipv6? (s : List Char) : Option (List Nat) :=
  match splitGap? s with
  | none => (ipv6Run? s).bind fun ps => if ps.length = 8 then some ps else none
  | some (a, b) => do
    let front ← if a.contains '.' then none else ipv6Run? a
    let back ← ipv6Run? b
    if front.length + back.length < 8 then
      some (front ++ List.replicate (8 - front.length - back.length) 0 ++ back)
    else none

def host? (s : List Char) : Option Host :=
  match s with
  | [] => none
  | '[' :: r => if r.getLast? = some ']' then (ipv6? r.dropLast).map .ipv6 else none
  | s => do
    let bytes := unescape (String.ofList s).toUTF8.toList
    let plain ← String.fromUTF8? ⟨bytes.toArray⟩
    let d ← domain? plain.toList
    if endsInNumber d then (ipv4? d).map .ipv4 else some (.domain d)

end Herald.Url
