import Herald.Text.Lines
/-!
Places on the web, in the parts that a written address has, and their one normal text.
-/

set_option autoImplicit false

namespace Herald

namespace Url

inductive Scheme where
  | http
  | https
  deriving DecidableEq, Repr

def Scheme.name : Scheme → String
  | .http => "http"
  | .https => "https"

def Scheme.defaultPort : Scheme → Nat
  | .http => 80
  | .https => 443

inductive Host where
  | domain (name : List Char)
  /-- A number of 32 bits. -/
  | ipv4 (address : Nat)
  /-- Eight numbers of 16 bits. -/
  | ipv6 (pieces : List Nat)
  deriving DecidableEq, Repr

end Url

structure Url where
  scheme : Url.Scheme
  host : Url.Host
  /-- Not given if it is the scheme's own. -/
  port : Option Nat
  path : List (List Char)
  query : Option (List Char)
  fragment : Option (List Char)
  deriving DecidableEq, Repr

namespace Url

def decimal (n : Nat) : List Char := Nat.toDigits 10 n

/-- The first of the longest runs of two or more zeros: where it starts, and how long it is. -/
def longestZeros (pieces : List Nat) : Option (Nat × Nat) :=
  let runAt (i : Nat) : Nat := ((pieces.drop i).takeWhile (· = 0)).length
  (List.range pieces.length).foldl (fun best i =>
    let n := runAt i
    if 2 ≤ n && best.all (fun b => b.2 < n) then some (i, n) else best) none

def writePieces (pieces : List Nat) : List Char :=
  let join (l : List Nat) : List Char := List.intercalate [':'] (l.map (Nat.toDigits 16))
  match longestZeros pieces with
  | none => join pieces
  | some (i, n) => join (pieces.take i) ++ [':', ':'] ++ join (pieces.drop (i + n))

def Host.write : Host → List Char
  | .domain name => name
  | .ipv4 a =>
    decimal (a >>> 24) ++ '.' :: decimal (a >>> 16 % 256) ++ '.' :: decimal (a >>> 8 % 256) ++
      '.' :: decimal (a % 256)
  | .ipv6 pieces => '[' :: writePieces pieces ++ [']']

def write (u : Url) : List Char :=
  u.scheme.name.toList ++ "://".toList ++ u.host.write ++
    ((u.port.map fun p => ':' :: decimal p).getD []) ++
    u.path.flatMap ('/' :: ·) ++ ((u.query.map ('?' :: ·)).getD []) ++
      ((u.fragment.map ('#' :: ·)).getD [])

def text (u : Url) : String := String.ofList u.write

end Url

end Herald
