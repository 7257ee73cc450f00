import Herald.Message
import Herald.Notification
import Herald.Preferences
/-!
Templates: text with holes. A hole is a dollar sign and a name in braces; every other character,
and every dollar sign that opens no hole, stands for itself. What fills a hole is not looked at
again.
-/

set_option autoImplicit false

namespace Herald

inductive RenderError where
  | templateNotFound (key : String)
  | missingParam (name : String)
  | malformed (why : Malformed)
  | factory (text : String)
  deriving DecidableEq, Repr

def RenderError.message : RenderError → String
  | .templateNotFound key => "template not found: " ++ key
  | .missingParam name => "missing parameter: " ++ name
  | .malformed why => "malformed message: " ++ why.message
  | .factory text => "params factory failed: " ++ text

structure Template where
  kind : MessageKind
  source : String
  deriving DecidableEq, Repr

namespace Template

inductive Part where
  | letter (c : Char)
  | hole (name : List Char)
  deriving DecidableEq, Repr

def isNameChar (c : Char) : Bool :=
  ('A' ≤ c && c ≤ 'Z') || ('a' ≤ c && c ≤ 'z') || ('0' ≤ c && c ≤ '9') || c =
    '_' || c = '.' || c = '-'

/-- The name of a hole that opens here, and what follows the hole. -/
def readHole? : List Char → Option (List Char × List Char)
  | '$' :: '\x7b' :: r =>
    match r.takeWhile isNameChar, r.dropWhile isNameChar with
    | c :: cs, '\x7d' :: rest => some (c :: cs, rest)
    | _, _ => none
  | _ => none

private theorem length_dropWhile_le {p : Char → Bool} (s : List Char) :
    (s.dropWhile p).length ≤ s.length := by
  induction s with
  | nil => simp
  | cons c r ih => by_cases h : p c <;> simp [h]; omega

theorem length_of_readHole? {s name rest : List Char} (h : readHole? s = some (name, rest)) :
    rest.length < s.length := by
  unfold readHole? at h
  split at h
  · next r =>
    split at h
    · next heq =>
      have := length_dropWhile_le (p := isNameChar) r
      simp_all
      omega
    · simp at h
  · simp at h

/-- From left to right, each hole as soon as it opens. -/
def parts (s : List Char) : List Part :=
  match _h : readHole? s with
  | some (name, rest) => .hole name :: parts rest
  | none =>
    match s with
    | [] => []
    | c :: r => .letter c :: parts r
termination_by s.length
decreasing_by
  · exact length_of_readHole? _h
  · simp

def fill (b : Bag) : List Part → Except RenderError (List Char)
  | [] => .ok []
  | .letter c :: ps =>
    match fill b ps with
    | .ok t => .ok (c :: t)
    | .error e => .error e
  | .hole name :: ps =>
    match b.getValue (String.ofList name) with
    | none => .error (.missingParam (String.ofList name))
    | some v =>
      match fill b ps with
      | .ok t => .ok (v.display.toList ++ t)
      | .error e => .error e

def substitute (source : String) (b : Bag) : Except RenderError String :=
  match fill b (parts source.toList) with
  | .ok t => .ok (String.ofList t)
  | .error e => .error e

def render (t : Template) (b : Bag) : Except RenderError Message :=
  match substitute t.source b with
  | .error e => .error e
  | .ok raw =>
    match Message.parse raw t.kind with
    | .ok m => .ok m
    | .error why => .error (.malformed why)

end Template

/-- Templates by key and version; what was registered last comes first. -/
structure Catalog where
  entries : List ((String × Version) × Template)
  deriving DecidableEq, Repr

namespace Catalog

def empty : Catalog := ⟨[]⟩

instance : Inhabited Catalog := ⟨empty⟩

def register (c : Catalog) (key : String) (version : Version) (t : Template) : Catalog :=
  ⟨((key, version), t) :: c.entries⟩

def get? (c : Catalog) (key : String) (version : Version) : Option Template :=
  (c.entries.find? fun e => e.1 = (key, version)).map (·.2)

/-- A key without a template of the version is looked up in the long one. -/
def find? (c : Catalog) (key : String) (version : Version) : Option Template :=
  (c.get? key version).or (c.get? key .long)

theorem get?_register (c : Catalog) (key key' : String) (version version' : Version)
    (t : Template) : (c.register key version t).get? key' version' =
      if (key, version) = (key', version') then some t else c.get? key' version' := by
  simp only [get?, register, List.find?_cons]
  split <;> simp_all

def render (c : Catalog) (key : String) (version : Version) (b : Bag) :
    Except RenderError Message :=
  match c.find? key version with
  | none => .error (.templateNotFound key)
  | some t => t.render b

end Catalog

end Herald
