import Herald.Json.Fields
/-!
Small closed sets of cases, each with the one name under which texts and documents know it.
-/

set_option autoImplicit false

namespace Herald

class Named (α : Type) where
  all : List α
  name : α → String
  /-- No two cases share a name, and none is left out. -/
  complete : ∀ a, all.find? (fun b => name b == name a) = some a

namespace Named

variable {α : Type} [Named α]

/-- The exact spelling only. -/
def ofName? (s : String) : Option α := (all : List α).find? (fun a => name a == s)

@[simp] theorem ofName?_name (a : α) : ofName? (name a) = some a := complete a

def encode (a : α) : Json := .text (name a)

def decode? (loose : Bool) (d : Json.Doc) : Option α := (d.caseName? loose).bind ofName?

end Named

end Herald
