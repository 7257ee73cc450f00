import Herald.Text.Blank
import Herald.Text.Lines
import Herald.Bag
import Herald.Named
/-!
Messages, and their raw form: header lines, a blank line, and the body. A message has one header,
its subject; if that is given more than once, the last one counts.
-/

set_option autoImplicit false

namespace Herald

inductive MessageKind where
  | text
  | html
  deriving DecidableEq, Repr

instance : Named MessageKind where
  all := [.text, .html]
  name
    | .text => "text"
    | .html => "html"
  complete a := by cases a <;> decide

structure Message where
  kind : MessageKind
  subject : String
  body : String
  deriving DecidableEq, Repr

inductive Malformed where
  | illegalLine (line : String)
  | unknownHeader (name : String)
  | missingSubject
  | emptyBody
  deriving DecidableEq, Repr

namespace Malformed

def message : Malformed → String
  | .illegalLine line => "illegal header line: " ++ line
  | .unknownHeader name => "unknown header: " ++ name
  | .missingSubject => "missing header: Subject"
  | .emptyBody => "empty body"

end Malformed

namespace Message

open Text

def subjectName : List Char := "Subject".toList

def readHeader (line : List Char) : Except Malformed (List Char) :=
  match cut? ':' line with
  | none => .error (.illegalLine (String.ofList line))
  | some (name, value) =>
    if trim name = subjectName then .ok (trim value)
    else .error (.unknownHeader (String.ofList (trim name)))

/-- The subject of the last header line, or the fault of the first bad one. -/
def readHeaders : List (List Char) → Except Malformed (Option (List Char))
  | [] => .ok none
  | line :: rest => do
    let s ← readHeader line
    let later ← readHeaders rest
    return some (later.getD s)

def headerLines (ls : List (List Char)) : List (List Char) := ls.takeWhile (fun l => !allBlank l)

def bodyLines (ls : List (List Char)) : List (List Char) :=
  (ls.dropWhile (fun l => !allBlank l)).drop 1

/-- From the first line that is not blank on, without blanks at the end. -/
def readBody (ls : List (List Char)) : List Char := trimEnd (unlines (ls.dropWhile allBlank))

def ofLines (ls : List (List Char)) (kind : MessageKind) : Except Malformed Message := do
  match ← readHeaders (headerLines ls) with
  | none => .error .missingSubject
  | some s =>
    match readBody (bodyLines ls) with
    | [] => .error .emptyBody
    | b => .ok ⟨kind, String.ofList s, String.ofList b⟩

def parse (raw : String) (kind : MessageKind) : Except Malformed Message :=
  ofLines (lines raw.toList) kind

end Message

structure Dispatch where
  message : Message
  params : Bag
  deriving DecidableEq, Repr

structure Mail where
  recipient : String
  subject : String
  body : String
  kind : MessageKind
  deriving DecidableEq, Repr

end Herald
