import Herald.Bag
import Herald.Json.Fields
import Herald.Json.Reader
/-!
Bags and values as documents. A value is its type and what it holds; a bag is an object of values,
and is read whole, unknown members included.
-/

set_option autoImplicit false

namespace Herald

open Json

namespace Value

def content : Value → Json
  | .text s => .text s
  | .integer i => .ofInt i.toInt
  | .double d => if d.isFinite then .number (.double d) else .null
  | .boolean b => .bool b
  | .json j => j

def encode (v : Value) : Json := .object [("type", .text v.kind.name), ("value", v.content)]

def ofContent? (room : Nat) (d : Doc) : Kind → Option Value
  | .text => d.text?.map .text
  | .integer => d.int64?.map .integer
  | .double => d.double?.map .double
  | .boolean => d.bool?.map .boolean
  | .json => if d.sound room then d.value?.map .json else none

def decode? (room : Nat) (d : Doc) : Option Value := do
  let f ← d.fields? ["type", "value"]
  let kind ← f.required "type" fun d => (d.caseName? false).bind Kind.ofName?
  f.required "value" (ofContent? (room - 1) · kind)

end Value

namespace Bag

def encode (b : Bag) : Json := .ofDict Value.encode b.values

def decode? (room : Nat) (d : Doc) : Option Bag :=
  if d.sound room then (d.dict? (Value.decode? (room - 1))).map (⟨·, none⟩) else none

def read? (s : String) : Option Bag := do
  decode? Doc.maxDepth (← Doc.read? s.toList)

end Bag

end Herald
