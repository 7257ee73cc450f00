/-!
Registries: entries in the order of their arrival, each under a mark that tells instances apart. An
instance may be registered more than once, and is removed all at once.
-/

set_option autoImplicit false

namespace Herald

/-- What tells entries apart: their place among those that were there from the start, or the name
that they came under later. -/
inductive Mark where
  | given (place : Nat)
  | named (name : String)
  deriving DecidableEq, Repr

structure Registry (ι α : Type) where
  entries : List (ι × α)
  deriving Repr

namespace Registry

variable {ι α : Type}

def empty : Registry ι α := ⟨[]⟩

instance : Inhabited (Registry ι α) := ⟨empty⟩

def size (r : Registry ι α) : Nat := r.entries.length

def isEmpty (r : Registry ι α) : Bool := r.entries.isEmpty

def toList (r : Registry ι α) : List α := r.entries.map (·.2)

def add (r : Registry ι α) (mark : ι) (a : α) : Registry ι α := ⟨r.entries ++ [(mark, a)]⟩

def ofList (l : List α) : Registry Mark α := ⟨l.zipIdx.map fun a => (.given a.2, a.1)⟩

def removeWhere (r : Registry ι α) (p : α → Bool) : Registry ι α :=
  ⟨r.entries.filter fun e => !p e.2⟩

def find? (r : Registry ι α) (p : α → Bool) : Option α := r.toList.find? p

section Marks

variable [DecidableEq ι]

def contains (r : Registry ι α) (mark : ι) : Bool := r.entries.any fun e => e.1 = mark

def remove (r : Registry ι α) (mark : ι) : Registry ι α :=
  ⟨r.entries.filter fun e => e.1 ≠ mark⟩

@[simp] theorem contains_remove (r : Registry ι α) (mark : ι) :
    (r.remove mark).contains mark = false := by
  simp [contains, remove]

end Marks

@[simp] theorem toList_add (r : Registry ι α) (mark : ι) (a : α) :
    (r.add mark a).toList = r.toList ++ [a] := by
  simp [toList, add]

theorem toList_removeWhere (r : Registry ι α) (p : α → Bool) :
    (r.removeWhere p).toList = r.toList.filter fun a => !p a := by
  simp [toList, removeWhere, List.filter_map, Function.comp_def]

def summary (r : Registry ι α) : String :=
  "Registry \x7b len: " ++ String.ofList (Nat.toDigits 10 r.size) ++ " \x7d"

end Registry

end Herald
