import Herald.Container
import Herald.Content.Directory
import Herald.Channel.Mail
import Herald.Channel.Webhook
import Herald.Store.Location
import Herald.Store.Table
import Std.Time.DateTime.Timestamp
/-!
The command: an engine over tables that starts out empty, configured by the environment and by the
files that it names. Mails are printed, and nothing answers what is sent to the web.
-/

set_option autoImplicit false

namespace Herald.Command

def templateVariable : String := "NOTIFY_TEMPLATE_DIR"

def settings : List String :=
  open Config.Variable in
  [configFile, workers, maxErrors, backoffSecs, pollIntervalSecs, databaseUrl, log, logJson]

def steps : Nat := 1000000

abbrev Journal := List String

def mailLine (m : Mail) : String := "mail to " ++ m.recipient ++ ": " ++ m.subject

def printingClient : MailClient Journal := ⟨fun m j => (.ok (), mailLine m :: j)⟩

def channels : List (PushChannel Journal) :=
  [MailChannel.channel printingClient, WebhookChannel.channel {} .unreachable]

def openTable (address : String) : Except Fault (Closable Table) :=
  match Location.read? address with
  | some l => (l.opened fun _ => true).map fun _ => { store := .empty }
  | none => .error (.database .other)

def parts (c : Catalog) : Dispatcher.Parts (Closable Table) Journal where
  store := none
  hasPreferences := true
  produce := some (ContentService.mk c .empty).produce
  channels
  listeners := []
  config := {}

/-- Runs the engine until there is nothing to do, and stops it; with what is to be printed. -/
def run (c : Config) (templates : Catalog) (now : Instant) : Except Fault Journal := do
  let e : Container (Closable Table) Journal Unit ← Container.opening c openTable
    (parts templates) now []
  let (_, engine) := e.engine.call steps (.starting .asking fun _ => ())
  let (_, e) := { e with engine := engine.settle steps }.shutdown steps (fun _ => ()) Closable.close
  return e.engine.hall.world.outside

def readFile (path : String) : IO (Except FileFault String) := do
  try
    return .ok (← IO.FS.readFile path)
  catch _ => return .error .missing

def readDirectory (path : String) : IO Directory := do
  let mut d : Directory := .empty
  for e in ← ((← IO.currentDir) / path).readDir do
    if ← e.path.isDir then d := d.insert e.fileName .directory
    else d := d.insert e.fileName (.text (← IO.FS.readFile e.path))
  return d

def now : IO Instant := do
  return .ofNanos (← Std.Time.Timestamp.now).toNanosecondsSinceUnixEpoch.val

end Herald.Command

open Herald Herald.Command in
def main : IO UInt32 := do
  let set ← settings.filterMapM fun name => do return (← IO.getEnv name).map (name, ·)
  let lookup (name : String) : Option String := Dict.findEntry name set
  let document ← readFile ((lookup Config.Variable.configFile).getD "")
  let templates ← match ← IO.getEnv templateVariable with
    | some dir => do pure ((Catalog.empty.load (← readDirectory dir) "").map (·.1))
    | none => pure (.ok .empty)
  match Config.ofVariables lookup fun _ => document, templates with
  | .ok c, .ok t =>
    match run c t (← now) with
    | .ok journal =>
      for l in journal.reverse do IO.println l
      return 0
    | .error why => do
      IO.eprintln ("Error: " ++ why.message)
      return 1
  | .error why, _ => do
    IO.eprintln ("Error: " ++ why.message)
    return 1
  | _, .error why => do
    IO.eprintln ("Error: " ++ why.message)
    return 1
