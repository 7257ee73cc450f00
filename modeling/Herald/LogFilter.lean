import Herald.Fault
import Herald.Text.Blank
import Herald.Text.Letters
import Herald.Text.Lines
import Herald.Text.Natural
/-!
Log filters: from which level on what a part of the engine says is kept. Of two directives for one
part the later one counts, and the directives for longer names go before those for shorter ones.
-/

set_option autoImplicit false

namespace Herald

inductive LogLevel where
  | off
  | error
  | warn
  | info
  | debug
  | trace
  deriving DecidableEq, Repr

instance : Named LogLevel where
  all := [.off, .error, .warn, .info, .debug, .trace]
  name
    | .off => "off"
    | .error => "error"
    | .warn => "warn"
    | .info => "info"
    | .debug => "debug"
    | .trace => "trace"
  complete a := by cases a <;> decide

/-- By its number from zero on, or by its name in any case. -/
def LogLevel.read? (s : List Char) : Option LogLevel :=
  match Text.readBelow 6 s with
  | .ok n => (Named.all : List LogLevel)[n]?
  | .error _ => Named.ofName? (String.ofList (s.map Char.toLower))

structure LogDirective where
  /-- Without one it concerns all that no other directive does. -/
  target : Option String
  level : LogLevel
  deriving DecidableEq, Repr

namespace LogDirective

inductive ReadFault where
  | malformed
  | unknownLevel
  deriving DecidableEq, Repr

def ReadFault.message : ReadFault → String
  | .malformed => "invalid filter directive"
  | .unknownLevel =>
    "error parsing level filter: expected one of \"off\", \"error\", \"warn\", \"info\", " ++
      "\"debug\", \"trace\", or a number 0-5"

def isTargetStart (c : Char) : Bool := Text.isLetterOrDigit c || ['-', ':', '_'].contains c

/-- A level, or else a target alone, which lets all through. -/
def readAlone (s : List Char) : LogDirective :=
  match LogLevel.read? s with
  | some level => ⟨none, level⟩
  | none => ⟨some (String.ofList s), .trace⟩

/-- A target and its level, or either of them alone. Blanks at the ends belong to what they stand
by; a directive that begins with one cannot give a level. -/
def read (s : List Char) : Except ReadFault LogDirective :=
  if !(Text.trim s).head?.any isTargetStart then .error .malformed
  else match Text.cut? '=' s with
    | none => .ok (readAlone s)
    | some (target, level) =>
      if s.head?.any Text.isBlank then .error .unknownLevel
      else if level = [] then .ok ⟨some (String.ofList target), .trace⟩
      else match LogLevel.read? level with
        | some level => .ok ⟨some (String.ofList target), level⟩
        | none => .error .unknownLevel

def text (d : LogDirective) : String :=
  match d.target with
  | some t => t ++ "=" ++ Named.name d.level
  | none => Named.name d.level

/-- Goes before the other: its target is longer, or as long and greater. -/
def precedes (d e : LogDirective) : Bool :=
  match d.target, e.target with
  | some t, some u => u.utf8ByteSize < t.utf8ByteSize || (u.utf8ByteSize = t.utf8ByteSize && u < t)
  | some _, none => true
  | none, _ => false

end LogDirective

structure LogFilter where
  directives : List LogDirective
  deriving DecidableEq, Repr

namespace LogFilter

def put (d : LogDirective) : List LogDirective → List LogDirective
  | [] => [d]
  | e :: es =>
    if d.target = e.target then d :: es
    else if d.precedes e then d :: e :: es
    else e :: put d es

def readAll : List (List Char) → Except LogDirective.ReadFault (List LogDirective)
  | [] => .ok []
  | s :: ss => do
    let d ← LogDirective.read s
    return d :: (← readAll ss)

def pieces (s : String) : List (List Char) := (Text.splitOnChar ',' s.toList).filter (· ≠ [])

def ofDirectives (ds : List LogDirective) : LogFilter := ⟨ds.foldl (fun l d => put d l) []⟩

def read (s : String) : Except LogDirective.ReadFault LogFilter := do
  return ofDirectives (← readAll (pieces s))

def errorsOnly : LogFilter := ⟨[⟨none, .error⟩]⟩

/-- The directives of the text that can be read, if there are any. -/
def readLeniently (s : String) : LogFilter :=
  match (pieces s).filterMap fun p => (LogDirective.read p).toOption with
  | [] => errorsOnly
  | ds => ofDirectives ds

def text (f : LogFilter) : String := ",".intercalate (f.directives.map LogDirective.text)

def set (s : String) : Except Fault LogFilter :=
  match read s with
  | .ok f => .ok f
  | .error why => .error (.misconfigured (.directive why.message))

end LogFilter

end Herald
