import Herald.Json.Fields
/-!
Looking into a document whose members may be left out. Of members with one name the last counts,
and one that is null counts as left out.
-/

set_option autoImplicit false

namespace Herald.Json.Doc

def member? (d : Doc) (name : String) : Option Doc :=
  match d with
  | .object ms => (ms.reverse.find? fun m => m.1 == some name).map (·.2)
  | _ => none

def given? (d : Doc) (name : String) : Option Doc :=
  match d.member? name with
  | some .null => none
  | m => m

def part (d : Doc) (name : String) : Doc := (d.member? name).getD .null

def textAt? (d : Doc) (name : String) : Option String := (d.given? name).bind text?

def textAt (d : Doc) (name default : String) : String := (d.textAt? name).getD default

def intAt? (d : Doc) (name : String) : Option Int :=
  (d.given? name).bind (integer? (-int64Limit) UInt64.size)

def intAt (d : Doc) (name : String) (default : Int) : Int := (d.intAt? name).getD default

def natAt (d : Doc) (name : String) (default : Nat) : Nat := (d.intAt name default).toNat

def boolAt (d : Doc) (name : String) (default : Bool) : Bool :=
  ((d.given? name).bind bool?).getD default

def itemsAt (d : Doc) (name : String) : List Doc :=
  match d.member? name with
  | some (.array l) => l
  | _ => []

def textsAt (d : Doc) (name : String) : List String := (d.itemsAt name).filterMap text?

def membersAt (d : Doc) (name : String) : List (String × Doc) :=
  match d.member? name with
  | some (.object l) => l.filterMap fun m => m.1.map (·, m.2)
  | _ => []

end Herald.Json.Doc
