import Herald.Fault
import Herald.Text.Lines
import Herald.Url.Host
/-!
Where the tables are kept: in memory, or in a file, as an address such as
`sqlite:notify.db?mode=rwc` says.
-/

set_option autoImplicit false

namespace Herald

structure Location where
  /-- None for tables that are gone when they are closed. -/
  path : String
  isInMemory : Bool
  isReadOnly : Bool
  /-- The file is said not to change. -/
  isImmutable : Bool
  deriving DecidableEq, Repr

namespace Location

def dropAll (start : List Char) : Nat → List Char → List Char
  | 0, s => s
  | fuel + 1, s => if start.isPrefixOf s then dropAll start fuel (s.drop start.length) else s

/-- What follows the scheme, however often that stands there. -/
def afterScheme (s : List Char) : List Char :=
  let s := dropAll "sqlite://".toList s.length s
  dropAll "sqlite:".toList s.length s

def memoryName : List Char := ":memory:".toList

def unescaped? (s : List Char) : Option String :=
  String.fromUTF8? ⟨(Url.unescape (String.ofList s).toUTF8.toList).toArray⟩

def settingText? (s : List Char) : Option String :=
  unescaped? (s.map fun c => if c = '+' then ' ' else c)

/-- The ways there are to work on files; one of them keeps all in memory. -/
def fileSystems : List String := ["unix", "unix-none", "unix-dotfile", "unix-excl", "memdb"]

def withFlag (l : Location) (name value : String) : Option Location :=
  match name, value with
  | "mode", "ro" => some { l with isReadOnly := true }
  | "mode", "rw" | "mode", "rwc" | "cache", "private" | "cache", "shared" => some l
  | "mode", "memory" => some { l with isInMemory := true }
  | "immutable", "true" | "immutable", "1" => some { l with isImmutable := true }
  | "immutable", "false" | "immutable", "0" => some { l with isImmutable := false }
  | "vfs", "memdb" => some { l with isInMemory := true }
  | "vfs", system => if fileSystems.contains system then some l else none
  | _, _ => none

def withSetting (l : Location) (s : List Char) : Option Location := do
  if s = [] then return l
  let (name, value) := (Text.cut? '=' s).getD (s, [])
  l.withFlag (← settingText? name) (← settingText? value)

def withSettings (l : Location) : List (List Char) → Option Location
  | [] => some l
  | s :: ss => (l.withSetting s).bind (withSettings · ss)

/-- Nothing for an address with settings that are not known, or of a file that cannot be named. -/
def read? (address : String) : Option Location := do
  let s := afterScheme address.toList
  let (path, settings) := (Text.cut? '?' s).getD (s, [])
  let isMemory := decide (path = memoryName)
  let path ← if isMemory then some "" else unescaped? path
  if path.toList.contains '\x00' then none
  withSettings ⟨path, isMemory, false, false⟩ (Text.splitOnChar '&' settings)

/-- The file's name has room for the endings of those that are kept beside it. -/
def maxNameSize : Nat := 247

def file? (l : Location) : Option (String × String) :=
  let parts := Text.splitOnChar '/' l.path.toList
  let front := parts.dropLast
  match parts.getLast? with
  | none => none
  | some name =>
    let name := String.ofList name
    if ["", ".", ".."].contains name || maxNameSize < name.utf8ByteSize then none
    else
      let start := if front.head? = some [] then "/" else ""
      let names := (front.map String.ofList).filter fun p => p ≠ "" && p ≠ "."
      some (start ++ "/".intercalate names, name)

/-- Whether new tables can be set up there, if these directories can be written to. -/
def opened (l : Location) (isWritable : String → Bool) : Except Fault Unit :=
  if l.isInMemory || l.path = "" then (if l.isReadOnly then .error .unmigrated else .ok ())
  else if l.isReadOnly || !l.file?.any (fun f => isWritable f.1) then .error (.database .other)
  else if l.isImmutable then .error .unmigrated
  else .ok ()

end Location

end Herald
