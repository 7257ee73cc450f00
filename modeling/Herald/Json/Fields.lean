import Herald.Json.Doc
/-!
Reading records and scalars from a document. A record is an object, whose members may come in any
order and among others, or an array of the fields in their order. Only a field with a default may
be missing from an array, and only from its end.
-/

set_option autoImplicit false

namespace Herald.Json

structure Fields where
  positional : Bool
  found : List (String × Doc)

namespace Fields

def find? (f : Fields) (name : String) : Option Doc := Dict.findEntry name f.found

variable {α : Type}

def required (f : Fields) (name : String) (read : Doc → Option α) : Option α :=
  (f.find? name).bind read

/-- Null stands for nothing, and so does a member that is missing. -/
def nullable (f : Fields) (name : String) (read : Doc → Option α) : Option (Option α) :=
  match f.find? name with
  | none => if f.positional then none else some none
  | some .null => some none
  | some d => (read d).map some

def withDefault (f : Fields) (name : String) (read : Doc → Option α) (default : α) : Option α :=
  match f.find? name with
  | none => some default
  | some d => read d

end Fields

namespace Doc

/-- The members under the given names; none of these may come twice. -/
def members? (names : List String) : List (Option String × Doc) → Option (List (String × Doc))
  | [] => some []
  | (k, d) :: ms => do
    let k ← k
    let rest ← members? names ms
    if k ∈ names then
      if (Dict.findEntry k rest).isSome then none else return (k, d) :: rest
    else return rest

def fields? (names : List String) : Doc → Option Fields
  | .object ms => (members? names ms).map (⟨false, ·⟩)
  | .array ds => if ds.length ≤ names.length then some ⟨true, names.zip ds⟩ else none
  | _ => none

def text? : Doc → Option String
  | .text s => s
  | _ => none

def bool? : Doc → Option Bool
  | .bool b => some b
  | _ => none

def integer? (lo hi : Int) : Doc → Option Int
  | .number (some (.integer i)) => if lo ≤ i && i < hi then some i else none
  | _ => none

abbrev int64Limit : Int := 9223372036854775808

def int64? (d : Doc) : Option Int64 := (d.integer? (-int64Limit) int64Limit).map .ofInt

def uint64? (d : Doc) : Option UInt64 := (d.integer? 0 UInt64.size).map fun i => .ofNat i.toNat

def uint32? (d : Doc) : Option UInt32 := (d.integer? 0 UInt32.size).map fun i => .ofNat i.toNat

/-- An integer is read as the nearest double. -/
def double? : Doc → Option Double
  | .number (some (.integer i)) => some (Double.ofInt i)
  | .number (some (.double d)) => some d
  | _ => none

section Collections

variable {α : Type} (read : Doc → Option α)

def readAll? : List Doc → Option (List α)
  | [] => some []
  | d :: ds => do return (← read d) :: (← readAll? ds)

def readEntries? : List (Option String × Doc) → Option (List (String × α))
  | [] => some []
  | (k, d) :: ms => do return (← k, ← read d) :: (← readEntries? ms)

def list? : Doc → Option (List α)
  | .array ds => readAll? read ds
  | _ => none

/-- An object as a map; of members with one name the last counts. -/
def dict? : Doc → Option (Dict α)
  | .object ms => (readEntries? read ms).map Dict.ofList
  | _ => none

end Collections

/-- The name of one case of many: a text, or the only member of an object that holds null. Where
`loose`, it may hold an empty object instead. -/
def caseName? (loose : Bool) : Doc → Option String
  | .text s => s
  | .object [(k, .null)] => k
  | .object [(k, .object [])] => if loose then k else none
  | _ => none

end Doc

end Herald.Json
