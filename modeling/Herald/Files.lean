import Herald.Dict
import Herald.Text.Lines
/-!
A directory as data: texts and directories, each under the path that leads to it.
-/

set_option autoImplicit false

namespace Herald

inductive FileFault where
  | missing
  | isDirectory
  | notDirectory
  | nameTooLong
  | nameUnreadable
  deriving DecidableEq, Repr

def FileFault.message : FileFault → String
  | .missing => "No such file or directory (os error 2)"
  | .isDirectory => "Is a directory (os error 21)"
  | .notDirectory => "Not a directory (os error 20)"
  | .nameTooLong => "File name too long (os error 36)"
  | .nameUnreadable => "file name contained an unexpected NUL byte"

inductive FileEntry where
  | text (content : String)
  | directory
  deriving DecidableEq, Repr

abbrev Directory := Dict FileEntry

namespace Directory

/-- Where a path leads: to a place in the directory, by the names on the way with the last one
first, or out of it. -/
inductive Place where
  | inside (names : List String)
  | outside
  deriving DecidableEq, Repr

def maxNameSize : Nat := 255

def maxPathSize : Nat := 4095

def pathOf (names : List String) : String := "/".intercalate names.reverse

/-- The directory itself is there, and so are those that are on the way to others. -/
def entry? (d : Directory) (names : List String) : Option FileEntry :=
  if names = [] then some .directory
  else match d.get? (pathOf names) with
    | some e => some e
    | none => if d.keys.any ((pathOf names ++ "/").isPrefixOf ·) then some .directory else none

/-- Goes on by one part of a path, which has to start from a directory. -/
def enter (d : Directory) : Place → String → Except FileFault Place
  | .outside, part => if ["", ".", ".."].contains part then .ok .outside else .error .missing
  | .inside names, part =>
    match d.entry? names, part with
    | some .directory, "" | some .directory, "." => .ok (.inside names)
    | some .directory, ".." =>
      match names with
      | [] => .ok .outside
      | _ :: up => .ok (.inside up)
    | some .directory, part =>
      if maxNameSize < part.utf8ByteSize then .error .nameTooLong
      else if (d.entry? (part :: names)).isSome then .ok (.inside (part :: names))
      else .error .missing
    | _, _ => .error .notDirectory

def enterAll (d : Directory) (p : Place) : List String → Except FileFault Place
  | [] => .ok p
  | part :: rest => do d.enterAll (← d.enter p part) rest

def find (d : Directory) (path : String) : Except FileFault Place :=
  if path.toList.contains '\x00' then .error .nameUnreadable
  else if maxPathSize < path.utf8ByteSize then .error .nameTooLong
  else d.enterAll (.inside []) ((Text.splitOnChar '/' path.toList).map String.ofList)

def read (d : Directory) (path : String) : Except FileFault String := do
  match ← d.find path with
  | .inside names =>
    match d.entry? names with
    | some (.text s) => .ok s
    | _ => .error .isDirectory
  | .outside => .error .isDirectory

def below (d : Directory) (names : List String) : List (String × FileEntry) :=
  let front := if names = [] then "" else pathOf names ++ "/"
  d.entries.filterMap fun e =>
    let rest := e.1.toList.drop front.length
    if front.isPrefixOf e.1 && rest ≠ [] && !rest.contains '/'
      then some (String.ofList rest, e.2) else none

def list (d : Directory) (path : String) : Except FileFault (List (String × FileEntry)) := do
  match ← d.find path with
  | .inside names =>
    if d.entry? names = some .directory then .ok (d.below names) else .error .notDirectory
  | .outside => .ok []

end Directory

end Herald
