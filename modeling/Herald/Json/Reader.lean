import Herald.Json.Doc
/-!
Reading a document. `Doc.read?` accepts one value with white space around it and nothing else.
-/

set_option autoImplicit false

namespace Herald.Json

def isSpace (c : Char) : Bool := c = ' ' || c = '\n' || c = '\t' || c = '\r'

def skipSpace (s : List Char) : List Char := s.dropWhile isSpace

/-- A piece of a quoted text: a character, or a unit of 16 bits named by an escape. -/
inductive Piece where
  | char (c : Char)
  | unit (n : Nat)
  deriving DecidableEq, Repr

def hexValue? (c : Char) : Option Nat :=
  if '0' ≤ c && c ≤ '9' then some (c.toNat - 48)
  else if 'a' ≤ c && c ≤ 'f' then some (c.toNat - 87)
  else if 'A' ≤ c && c ≤ 'F' then some (c.toNat - 55)
  else none

def hexUnit? (a b c d : Char) : Option Nat := do
  return (((← hexValue? a) * 16 + (← hexValue? b)) * 16 + (← hexValue? c)) * 16 + (← hexValue? d)

def escape? : Char → Option Char
  | '"' => some '"'
  | '\\' => some '\\'
  | '/' => some '/'
  | 'b' => some '\x08'
  | 'f' => some '\x0c'
  | 'n' => some '\n'
  | 'r' => some '\r'
  | 't' => some '\t'
  | _ => none

def readPieces : List Char → Option (List Piece × List Char)
  | [] => none
  | '"' :: r => some ([], r)
  | '\\' :: 'u' :: a :: b :: c :: d :: r => do
    let n ← hexUnit? a b c d
    let (ps, r) ← readPieces r
    return (.unit n :: ps, r)
  | '\\' :: e :: r => do
    let c ← escape? e
    let (ps, r) ← readPieces r
    return (.char c :: ps, r)
  | c :: r =>
    if c.toNat < 0x20 then none
    else (readPieces r).map fun (ps, r) => (.char c :: ps, r)

def isHighHalf (n : Nat) : Bool := 0xD800 ≤ n && n < 0xDC00

def isLowHalf (n : Nat) : Bool := 0xDC00 ≤ n && n < 0xE000

/-- The text, if each half of a character is followed by its other half. -/
def joinPieces : List Piece → Option (List Char)
  | [] => some []
  | .char c :: ps => (joinPieces ps).map (c :: ·)
  | .unit n :: .unit m :: ps =>
    if isHighHalf n then
      if isLowHalf m then
        (joinPieces ps).map (Char.ofNat (0x10000 + (n - 0xD800) * 0x400 + (m - 0xDC00)) :: ·)
      else none
    else if isLowHalf n then none
    else (joinPieces (.unit m :: ps)).map (Char.ofNat n :: ·)
  | .unit n :: ps =>
    if isHighHalf n || isLowHalf n then none else (joinPieces ps).map (Char.ofNat n :: ·)

def readText (s : List Char) : Option (Option String × List Char) :=
  (readPieces s).map fun (ps, r) => ((joinPieces ps).map String.ofList, r)

namespace Doc

mutual

def readValue : Nat → List Char → Option (Doc × List Char)
  | 0, _ => none
  | fuel + 1, s =>
    match s with
    | 'n' :: 'u' :: 'l' :: 'l' :: r => some (.null, r)
    | 't' :: 'r' :: 'u' :: 'e' :: r => some (.bool true, r)
    | 'f' :: 'a' :: 'l' :: 's' :: 'e' :: r => some (.bool false, r)
    | '"' :: r => (readText r).map fun (t, r) => (.text t, r)
    | '[' :: r =>
      match skipSpace r with
      | ']' :: r => some (.array [], r)
      | r => (readItems fuel r).map fun (ds, r) => (.array ds, r)
    | '{' :: r =>
      match skipSpace r with
      | '}' :: r => some (.object [], r)
      | r => (readMembers fuel r).map fun (ms, r) => (.object ms, r)
    | s => (readLiteral s).map fun (l, r) => (.number l.number?, r)

def readItems : Nat → List Char → Option (List Doc × List Char)
  | 0, _ => none
  | fuel + 1, s => do
    let (d, r) ← readValue fuel s
    match skipSpace r with
    | ']' :: r => return ([d], r)
    | ',' :: r =>
      let (ds, r) ← readItems fuel (skipSpace r)
      return (d :: ds, r)
    | _ => none

def readMembers : Nat → List Char → Option (List (Option String × Doc) × List Char)
  | 0, _ => none
  | fuel + 1, s =>
    match s with
    | '"' :: r => do
      let (k, r) ← readText r
      match skipSpace r with
      | ':' :: r =>
        let (d, r) ← readValue fuel (skipSpace r)
        match skipSpace r with
        | '}' :: r => return ([(k, d)], r)
        | ',' :: r =>
          let (ms, r) ← readMembers fuel (skipSpace r)
          return ((k, d) :: ms, r)
        | _ => none
      | _ => none
    | _ => none

end

/-- Every call reads a character or hands on to one that does, so this is enough. -/
def fuelFor (s : List Char) : Nat := 2 * s.length + 2

def read? (s : List Char) : Option Doc := do
  let (d, r) ← readValue (fuelFor s) (skipSpace s)
  if skipSpace r = [] then some d else none

end Doc

end Herald.Json
