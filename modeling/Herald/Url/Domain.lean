import Herald.Text.Direction
import Herald.Text.Lines
import Herald.Url.Folding
import Herald.Url.Punycode
/-!
Domains: labels with points between them, each written in ASCII and read as what that stands for.
-/

set_option autoImplicit false

namespace Herald.Url

structure Label where
  written : List Char
  spoken : List Char
  deriving DecidableEq, Repr

namespace Label

/-- At the head of labels in their ASCII form. -/
def mark : List Char := "xn--".toList

def maxSpoken : Nat := 1000

def maxWritten : Nat := 2000

/-- Whether a label with other characters than ASCII may stand in a domain. -/
def isProper (spoken : List Char) : Bool :=
  !spoken.head?.any Text.isMark && Text.joinersMatter [] spoken

/-- A label in ASCII form has to stand for one that needs it and is spelt in the one way. -/
def ofWritten? (s : List Char) : Option Label :=
  if s.getLast? = some '-' || maxWritten < s.length then none
  else do
    let spoken ← Punycode.read? s
    if spoken.all Punycode.isAscii || folded? spoken ≠ some spoken || !isProper spoken then none
    else some ⟨mark ++ s, spoken⟩

def read? (s : List Char) : Option Label :=
  if mark.isPrefixOf s then ofWritten? (s.drop mark.length)
  else if s.all Punycode.isAscii then some ⟨s, s⟩
  else if isProper s && s.length ≤ maxSpoken then some ⟨mark ++ Punycode.write s, s⟩
  else none

end Label

def isForbidden (c : Char) : Bool :=
  c.toNat ≤ 0x20 || c.toNat = 0x7f || "%#/:<>?@[\\]^|".toList.contains c

/-- Where something in a domain is written from right to left, each label keeps to one direction. -/
def keepDirections (labels : List Label) : Bool :=
  !labels.any (fun l => Text.turnsRight l.spoken) || labels.all fun l =>
    Text.keepsDirection l.spoken

def domain? (s : List Char) : Option (List Char) := do
  let folded ← folded? s
  let labels ← (Text.splitOnChar '.' folded).mapM Label.read?
  let out := List.intercalate ['.'] (labels.map Label.written)
  if out = [] || out.any isForbidden || !keepDirections labels then none else some out

end Herald.Url
