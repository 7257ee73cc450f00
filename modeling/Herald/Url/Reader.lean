import Herald.Url.Host
/-!
Reading a web address, in the lenient way in which browsers do: blanks around it and line ends in
it are dropped, slashes may lean either way, and what an address cannot hold is escaped.
-/

set_option autoImplicit false

namespace Herald.Url

def isEscaped (others : List Char) (c : Char) : Bool :=
  c.toNat < 0x20 || 0x7f ≤ c.toNat || others.contains c

def fragmentEscapes : List Char := [' ', '"', '<', '>', '\x60']

def pathEscapes : List Char := fragmentEscapes ++ ['#', '?', '\x7b', '\x7d']

def queryEscapes : List Char := [' ', '"', '#', '<', '>', '\'']

def upperHex (n : Nat) : Char := Char.ofNat (if n < 10 then 48 + n else 55 + n)

def escapeByte (b : UInt8) : List Char := ['%', upperHex (b.toNat / 16), upperHex (b.toNat % 16)]

def escape (others : List Char) (s : List Char) : List Char :=
  s.flatMap fun c =>
    if isEscaped others c then (String.singleton c).toUTF8.toList.flatMap escapeByte else [c]

def isSlash (c : Char) : Bool := c = '/' || c = '\\'

def readScheme? (s : List Char) : Option (Scheme × List Char) := do
  let (name, rest) ← Text.cut? ':' s
  match String.ofList (name.map Char.toLower) with
  | "http" => some (.http, rest)
  | "https" => some (.https, rest)
  | _ => none

/-- What follows the last `@`, if there is one. -/
def afterUser (s : List Char) : List Char := (s.reverse.takeWhile (· ≠ '@')).reverse

def splitPort : Bool → List Char → List Char × Option (List Char)
  | _, [] => ([], none)
  | inside, c :: r =>
    if c = ':' && !inside then ([], some r)
    else
      let (h, p) := splitPort (if c = '[' then true else if c = ']' then false else inside) r
      (c :: h, p)

/-- An empty port, or the scheme's own, is none. -/
def readPort? (scheme : Scheme) : Option (List Char) → Option (Option Nat)
  | none | some [] => some none
  | some ds =>
    if ds.all (fun c => '0' ≤ c && c ≤ '9') then
      let n := ds.foldl (fun n c => 10 * n + (c.toNat - 48)) 0
      if n < 65536 then some (if n = scheme.defaultPort then none else some n) else none
    else none

def splitSlashes : List Char → List (List Char)
  | [] => [[]]
  | c :: r =>
    if isSlash c then [] :: splitSlashes r
    else match splitSlashes r with
      | [] => [[c]]
      | p :: ps => (c :: p) :: ps

def isDot (s : List Char) : Bool := [".", "%2e"].contains (String.ofList (s.map Char.toLower))

def isDoubleDot (s : List Char) : Bool :=
  ["..", ".%2e", "%2e.", "%2e%2e"].contains (String.ofList (s.map Char.toLower))

/-- A letter and a colon or a bar, which may name a drive. -/
def isDrive : List Char → Bool
  | [c, d] => c.isAlpha && (d = ':' || d = '|')
  | _ => false

/-- The path without its last part, unless that may be a drive; it is kept backwards. -/
def ascend : List (List Char) → List (List Char)
  | s :: r => if isDrive s then s :: r else r
  | [] => []

/-- Goes up for double dots and stays for dots; the path so far is kept backwards. -/
def walk : List (List Char) → List (List Char) → List (List Char)
  | done, [] => done.reverse
  | done, [s] =>
    if isDoubleDot s then ([] :: ascend done).reverse
    else if isDot s then ([] :: done).reverse
    else (escape pathEscapes s :: done).reverse
  | done, s :: r =>
    if isDoubleDot s then walk (ascend done) r
    else if isDot s then walk done r
    else walk (escape pathEscapes s :: done) r

def readPath (s : List Char) : List (List Char) :=
  match s with
  | [] => [[]]
  | c :: r => walk [] (splitSlashes (if isSlash c then r else c :: r))

def readList? (s : List Char) : Option Url := do
  let outer (c : Char) : Bool := c.toNat ≤ 0x20
  let s := ((s.dropWhile outer).reverse.dropWhile outer).reverse
  let s := s.filter fun c => c ≠ '\t' && c ≠ '\n' && c ≠ '\r'
  let (scheme, s) ← readScheme? s
  let s := s.dropWhile isSlash
  let ends (c : Char) : Bool := isSlash c || c = '?' || c = '#'
  let authority := afterUser (s.takeWhile fun c => !ends c)
  let (host, port) := splitPort false authority
  let host ← host? host
  let port ← readPort? scheme port
  let (rest, fragment) := match Text.cut? '#' (s.dropWhile fun c => !ends c) with
    | some (a, b) => (a, some (escape fragmentEscapes b))
    | none => (s.dropWhile fun c => !ends c, none)
  let (path, query) := match Text.cut? '?' rest with
    | some (a, b) => (a, some (escape queryEscapes b))
    | none => (rest, none)
  return ⟨scheme, host, port, readPath path, query, fragment⟩

def read? (s : String) : Option Url := readList? s.toList

end Herald.Url
