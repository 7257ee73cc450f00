import Herald.Json.Printer
/-!
Bags of named, typed values. A bag may remember defaults; removing a value then puts its default
back. A typed key reads only values of its own type.
-/

set_option autoImplicit false

namespace Herald

inductive Value where
  | text (s : String)
  | integer (i : Int64)
  | double (d : Double)
  | boolean (b : Bool)
  | json (j : Json)
  deriving DecidableEq, Repr

namespace Value

inductive Kind where
  | text
  | integer
  | double
  | boolean
  | json
  deriving DecidableEq, Repr

namespace Kind

def all : List Kind := [.text, .integer, .double, .boolean, .json]

def name : Kind → String
  | .text => "string"
  | .integer => "integer"
  | .double => "double"
  | .boolean => "boolean"
  | .json => "json"

def ofName? (s : String) : Option Kind := all.find? (·.name == s)

theorem ofName?_name (k : Kind) : ofName? k.name = some k := by cases k <;> decide

abbrev Carrier : Kind → Type
  | .text => String
  | .integer => Int64
  | .double => Double
  | .boolean => Bool
  | .json => Json

end Kind

def kind : Value → Kind
  | .text _ => .text
  | .integer _ => .integer
  | .double _ => .double
  | .boolean _ => .boolean
  | .json _ => .json

def of : (k : Kind) → k.Carrier → Value
  | .text, s => .text s
  | .integer, i => .integer i
  | .double, d => .double d
  | .boolean, b => .boolean b
  | .json, j => .json j

def as? : (k : Kind) → Value → Option k.Carrier
  | .text, .text s => some s
  | .integer, .integer i => some i
  | .double, .double d => some d
  | .boolean, .boolean b => some b
  | .json, .json j => some j
  | _, _ => none

@[simp] theorem as?_of (k : Kind) (c : k.Carrier) : as? k (of k c) = some c := by cases k <;> rfl

theorem as?_isSome_iff {k : Kind} {v : Value} : (as? k v).isSome = true ↔ v.kind = k := by
  cases k <;> cases v <;> simp [as?, kind]

def display : Value → String
  | .text s => s
  | .integer i => String.ofList (Json.writeInt i.toInt)
  | .double d => d.text
  | .boolean b => if b then "true" else "false"
  | .json j => j.toText

def same : Value → Value → Bool
  | .text a, .text b => a == b
  | .integer a, .integer b => a == b
  | .double a, .double b => a.same b
  | .boolean a, .boolean b => a == b
  | .json a, .json b => a.same b
  | _, _ => false

end Value

structure Key (k : Value.Kind) where
  name : String
  ne_empty : name ≠ "" := by decide

def Key.ofName? (k : Value.Kind) (name : String) : Option (Key k) :=
  if h : name ≠ "" then some ⟨name, h⟩ else none

def Key.emptyNameText : String := "param name must not be empty"

structure Bag where
  values : Dict Value
  defaults : Option (Dict Value)
  deriving DecidableEq, Repr

namespace Bag

def empty : Bag := ⟨.empty, none⟩

instance : Inhabited Bag := ⟨empty⟩
instance : EmptyCollection Bag := ⟨empty⟩

/-- Holds and remembers the current values of `b`. -/
def withDefaults (b : Bag) : Bag := ⟨b.values, some b.values⟩

def ofList (l : List (String × Value)) : Bag := ⟨Dict.ofList l, none⟩

def getValue (b : Bag) (name : String) : Option Value := b.values.get? name

def setValue (b : Bag) (name : String) (v : Value) : Bag :=
  { b with values := b.values.insert name v }

def contains (b : Bag) (name : String) : Bool := b.values.contains name

def containsAll (b : Bag) (names : List String) : Bool := names.all b.contains

/-- Only a present value is removed, and then its default takes its place. -/
def unsetValue (b : Bag) (name : String) : Bag :=
  if b.contains name then
    match b.defaults.bind (·.get? name) with
    | none => { b with values := b.values.erase name }
    | some v => { b with values := (b.values.erase name).insert name v }
  else b

def merge (b c : Bag) : Bag := { b with values := b.values.override c.values }

variable {k : Value.Kind}

def get (b : Bag) (key : Key k) : Option k.Carrier := (b.getValue key.name).bind (Value.as? k)

def set (b : Bag) (key : Key k) (c : k.Carrier) : Bag := b.setValue key.name (.of k c)

def unset (b : Bag) (key : Key k) : Bag := b.unsetValue key.name

def size (b : Bag) : Nat := b.values.size

def isEmpty (b : Bag) : Bool := b.values.isEmpty

def entries (b : Bag) : List (String × Value) := b.values.entries

def same (b c : Bag) : Bool :=
  b.size == c.size && (b.entries.zip c.entries).all fun (e, f) => e.1 == f.1 && e.2.same f.2

@[simp] theorem getValue_setValue (b : Bag) (m n : String) (v : Value) :
    (b.setValue n v).getValue m = if m = n then some v else b.getValue m :=
  Dict.get?_insert b.values n m v

theorem getValue_merge (b c : Bag) (name : String) :
    (b.merge c).getValue name = (c.getValue name).or (b.getValue name) :=
  Dict.get?_override b.values c.values name

@[simp] theorem get_set (b : Bag) (key : Key k) (c : k.Carrier) :
    (b.set key c).get key = some c := by
  simp [get, set]

end Bag

end Herald
