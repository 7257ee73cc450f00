import Herald.Json.Basic
import Herald.Double.Text
/-!
Writing a value: compactly, with the escapes that a document must have and no others.
-/

set_option autoImplicit false

namespace Herald.Json

def hexDigit (n : Nat) : Char := Char.ofNat (if n < 10 then 48 + n else 87 + n)

def escaped (c : Char) : List Char :=
  match c with
  | '"' => ['\\', '"']
  | '\\' => ['\\', '\\']
  | '\x08' => ['\\', 'b']
  | '\x0c' => ['\\', 'f']
  | '\n' => ['\\', 'n']
  | '\r' => ['\\', 'r']
  | '\t' => ['\\', 't']
  | c =>
    if c.toNat < 0x20 then ['\\', 'u', '0', '0', hexDigit (c.toNat / 16), hexDigit (c.toNat % 16)]
    else [c]

def quoted (s : String) : List Char := '"' :: s.toList.flatMap escaped ++ ['"']

def writeInt (i : Int) : List Char :=
  if i < 0 then '-' :: Nat.toDigits 10 i.natAbs else Nat.toDigits 10 i.natAbs

/-- What is no finite number is written as null. -/
def Number.write : Number → List Char
  | .integer i => writeInt i
  | .double d => if d.isFinite then d.write .document else "null".toList

mutual

def write : Json → List Char
  | .null => "null".toList
  | .bool b => if b then "true".toList else "false".toList
  | .number n => n.write
  | .text s => quoted s
  | .array items => '[' :: writeItems items ++ [']']
  | .object members => '{' :: writeMembers members ++ ['}']

def writeItems : List Json → List Char
  | [] => []
  | [j] => j.write
  | j :: js => j.write ++ ',' :: writeItems js

def writeMembers : List (String × Json) → List Char
  | [] => []
  | [(k, j)] => quoted k ++ ':' :: j.write
  | (k, j) :: ms => quoted k ++ ':' :: j.write ++ ',' :: writeMembers ms

end

def escapedUnit (n : Nat) : List Char :=
  ['\\', 'u', hexDigit (n / 4096), hexDigit (n / 256 % 16), hexDigit (n / 16 % 16),
    hexDigit (n % 16)]

def inAscii (c : Char) : List Char :=
  if c.toNat < 0x7f then [c]
  else if c.toNat < 0x10000 then escapedUnit c.toNat
  else escapedUnit (0xD800 + (c.toNat - 0x10000) / 0x400) ++
    escapedUnit (0xDC00 + (c.toNat - 0x10000) % 0x400)

def toAscii (j : Json) : String := String.ofList (j.write.flatMap inAscii)

def toText (j : Json) : String := String.ofList j.write

end Herald.Json
