import Herald.Json.Number
/-!
A document as it was written: members in their order, repeated ones included, and numbers or
texts that stand for no value marked as such. A reader may skip a part of a document, and what it
skips need not stand for a value; what it uses must (`Doc.sound`).
-/

set_option autoImplicit false

namespace Herald.Json

inductive Doc where
  | null
  | bool (b : Bool)
  /-- Nothing: a double out of range. -/
  | number (n : Option Number)
  /-- Nothing: an escape that names half a character. -/
  | text (s : Option String)
  | array (items : List Doc)
  | object (members : List (Option String × Doc))
  deriving Repr

namespace Doc

instance : Inhabited Doc := ⟨.null⟩

/-- How deep the arrays and objects of a document may be nested. -/
def maxDepth : Nat := 127

mutual

/-- Stands for a value, and nests at most `room` deep. -/
def sound (room : Nat) : Doc → Bool
  | .null | .bool _ => true
  | .number n => n.isSome
  | .text s => s.isSome
  | .array items => 0 < room && soundItems (room - 1) items
  | .object members => 0 < room && soundMembers (room - 1) members

def soundItems (room : Nat) : List Doc → Bool
  | [] => true
  | d :: ds => d.sound room && soundItems room ds

def soundMembers (room : Nat) : List (Option String × Doc) → Bool
  | [] => true
  | (k, d) :: ds => k.isSome && d.sound room && soundMembers room ds

end

mutual

def value? : Doc → Option Json
  | .null => some .null
  | .bool b => some (.bool b)
  | .number n => n.map .number
  | .text s => s.map .text
  | .array items => (values? items).map .array
  | .object members => (entries? members).map fun es => .object (Dict.ofList es).entries

def values? : List Doc → Option (List Json)
  | [] => some []
  | d :: ds => do return (← d.value?) :: (← values? ds)

def entries? : List (Option String × Doc) → Option (List (String × Json))
  | [] => some []
  | (k, d) :: ds => do return (← k, ← d.value?) :: (← entries? ds)

end

end Doc

end Herald.Json
