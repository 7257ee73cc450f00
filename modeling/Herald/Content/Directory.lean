import Herald.Content
import Herald.Files
/-!
Templates from a directory. A file's name is a key, `long` or `short`, and an ending, with points
between; files with other names are passed over.
-/

set_option autoImplicit false

namespace Herald.Catalog

/-- Key, version and kind that a file's name gives; every ending but `html` is plain text. -/
def ofFileName? (name : String) : Option (String × Version × MessageKind) :=
  match Text.splitOnChar '.' name.toList with
  | [key, version, ending] =>
    let kind := if ending = "html".toList then MessageKind.html else .text
    if version = "long".toList then some (String.ofList key, .long, kind)
    else if version = "short".toList then some (String.ofList key, .short, kind)
    else none
  | _ => none

/-- Registers the templates among the files in their order, and counts them. -/
def loadFiles (c : Catalog) : List (String × FileEntry) → Except FileFault (Catalog × Nat)
  | [] => .ok (c, 0)
  | (name, entry) :: rest =>
    match ofFileName? name with
    | none => loadFiles c rest
    | some (key, version, kind) =>
      match entry with
      | .directory => .error .isDirectory
      | .text source => do
        let (c, n) ← loadFiles (c.register key version ⟨kind, source⟩) rest
        return (c, n + 1)

def load (c : Catalog) (d : Directory) (path : String) : Except FileFault (Catalog × Nat) := do
  c.loadFiles (← d.list path)

end Herald.Catalog
