import Herald.Retry
import Herald.Files
import Herald.Text.Blank
import Herald.Text.Natural
import Herald.Text.Quoted
import Herald.Json.Reader
/-!
The configuration of an engine, in layers: defaults, a document, and single variables. Each layer
changes only what it names.
-/

set_option autoImplicit false

namespace Herald

open Json

structure Config where
  workerCount : UInt64 := 1
  maxErrorCount : UInt32 := 3
  backoffSecs : List UInt64 := BackoffTable.standardSecs
  pollIntervalSecs : UInt64 := 180
  databaseUrl : String := "sqlite:notify.db?mode=rwc"
  logFilter : Option String := none
  logJson : Bool := false
  deriving DecidableEq, Repr

structure DispatchConfig where
  retry : RetryPolicy := {}
  pollInterval : Span := .ofSecs 180
  deriving DecidableEq, Repr

structure WorkerPoolConfig where
  workerCount : UInt64
  pollInterval : Span
  deriving DecidableEq, Repr

structure LoggingSettings where
  filter : Option String := none
  json : Bool := false
  deriving DecidableEq, Repr

namespace Span

def encode (d : Span) : Json :=
  .object [("secs", .ofNat d.secs.toNat), ("nanos", .ofNat d.subNanos)]

/-- Knows no members but its own. -/
def decode? (d : Doc) : Option Span := do
  let f ← d.fields? ["secs", "nanos"]
  let known := match d with
    | .object ms => ms.length == f.found.length
    | _ => true
  if known then ofParts? (← f.required "secs" Doc.uint64?) (← f.required "nanos" Doc.uint32?)
    else none

end Span

def orNull? {α : Type} (read : Doc → Option α) : Doc → Option (Option α)
  | .null => some none
  | d => (read d).map some

namespace WorkerPoolConfig

def encode (c : WorkerPoolConfig) : Json :=
  .object [("worker_count", .ofNat c.workerCount.toNat), ("poll_interval", c.pollInterval.encode)]

def decode? (d : Doc) : Option WorkerPoolConfig := do
  let f ← d.fields? ["worker_count", "poll_interval"]
  return ⟨← f.required "worker_count" Doc.uint64?, ← f.required "poll_interval" Span.decode?⟩

end WorkerPoolConfig

namespace LoggingSettings

def encode (s : LoggingSettings) : Json :=
  .object [("filter", .ofOption .text s.filter), ("json", .bool s.json)]

def decode? (d : Doc) : Option LoggingSettings := do
  let f ← d.fields? ["filter", "json"]
  return ⟨← f.withDefault "filter" (orNull? Doc.text?) none, ← f.withDefault "json" Doc.bool? false⟩

end LoggingSettings

namespace Config

instance : Inhabited Config := ⟨{}⟩

def encode (c : Config) : Json :=
  .object [("worker_count", .ofNat c.workerCount.toNat),
    ("max_error_count", .ofNat c.maxErrorCount.toNat),
    ("backoff_secs", .array (c.backoffSecs.map fun s => .ofNat s.toNat)),
    ("poll_interval_secs", .ofNat c.pollIntervalSecs.toNat), ("database_url", .text c.databaseUrl),
    ("log_filter", .ofOption .text c.logFilter), ("log_json", .bool c.logJson)]

def decode? (d : Doc) : Option Config := do
  let f ← d.fields? ["worker_count", "max_error_count", "backoff_secs", "poll_interval_secs",
    "database_url", "log_filter", "log_json"]
  let standard : Config := {}
  return ⟨← f.withDefault "worker_count" Doc.uint64? standard.workerCount,
    ← f.withDefault "max_error_count" Doc.uint32? standard.maxErrorCount,
    ← f.withDefault "backoff_secs" (Doc.list? Doc.uint64?) standard.backoffSecs,
    ← f.withDefault "poll_interval_secs" Doc.uint64? standard.pollIntervalSecs,
    ← f.withDefault "database_url" Doc.text? standard.databaseUrl,
    ← f.withDefault "log_filter" (orNull? Doc.text?) standard.logFilter,
    ← f.withDefault "log_json" Doc.bool? standard.logJson⟩

def ofText [Objections] (s : String) : Except Fault Config :=
  match (Doc.read? s.toList).bind decode? with
  | some c => .ok c
  | none => .error (.unread .configuration s)

def ofFile [Objections] (read : String → Except FileFault String) (path : String) :
    Except Fault Config :=
  match read path with
  | .ok s => ofText s
  | .error why => .error (.misconfigured (.unreadableFile path why.message))

namespace Variable

def configFile : String := "NOTIFY_CONFIG"
def workers : String := "NOTIFY_WORKERS"
def maxErrors : String := "NOTIFY_MAX_ERRORS"
def backoffSecs : String := "NOTIFY_BACKOFF_SECS"
def pollIntervalSecs : String := "NOTIFY_POLL_INTERVAL_SECS"
def databaseUrl : String := "DATABASE_URL"
def log : String := "NOTIFY_LOG"
def logJson : String := "NOTIFY_LOG_JSON"

def unreadable (name raw reason : String) : Fault :=
  .misconfigured (.variable name (Text.inQuotes raw) reason)

def natural (limit : Nat) (name raw : String) : Except Fault Nat :=
  match Text.readBelow limit (Text.trim raw.toList) with
  | .ok n => .ok n
  | .error why => .error (unreadable name raw why.message)

def word64 (name raw : String) : Except Fault UInt64 := (natural UInt64.size name raw).map .ofNat

def word32 (name raw : String) : Except Fault UInt32 := (natural UInt32.size name raw).map .ofNat

def wordsOf (name : String) : List String → Except Fault (List UInt64)
  | [] => .ok []
  | p :: ps => do
    let n ← word64 name p
    let ns ← wordsOf name ps
    return n :: ns

/-- The parts between commas; blank ones do not count. -/
def listParts (raw : String) : List String :=
  ((Text.splitOnChar ',' raw.toList).filter fun p => !Text.allBlank p).map String.ofList

def words (name raw : String) : Except Fault (List UInt64) := wordsOf name (listParts raw)

/-- Also `yes` and `no`, `on` and `off`, in any case; blank is false. -/
def boolean (name raw : String) : Except Fault Bool :=
  let s := String.ofList ((Text.trim raw.toList).map Char.toLower)
  if s ∈ ["1", "true", "yes", "on"] then .ok true
  else if s ∈ ["0", "false", "no", "off", ""] then .ok false
  else .error (unreadable name raw "expected a boolean")

def orKeep {α : Type} (lookup : String → Option String) (name : String)
    (read : String → String → Except Fault α) (old : α) : Except Fault α :=
  match lookup name with
  | none => .ok old
  | some raw => read name raw

end Variable

def withVariables (lookup : String → Option String) (c : Config) : Except Fault Config := do
  let workerCount ← Variable.orKeep lookup Variable.workers Variable.word64 c.workerCount
  let maxErrorCount ← Variable.orKeep lookup Variable.maxErrors Variable.word32 c.maxErrorCount
  let backoffSecs ← Variable.orKeep lookup Variable.backoffSecs Variable.words c.backoffSecs
  let pollIntervalSecs ←
    Variable.orKeep lookup Variable.pollIntervalSecs Variable.word64 c.pollIntervalSecs
  let databaseUrl := (lookup Variable.databaseUrl).getD c.databaseUrl
  let logFilter := (lookup Variable.log).or c.logFilter
  let logJson ← Variable.orKeep lookup Variable.logJson Variable.boolean c.logJson
  return {
    workerCount, maxErrorCount, backoffSecs, pollIntervalSecs, databaseUrl, logFilter, logJson }

/-- All layers; the document is the one that its variable names, if it is set. -/
def ofVariables [Objections] (lookup : String → Option String)
    (read : String → Except FileFault String) : Except Fault Config := do
  let base ← match lookup Variable.configFile with
    | none => .ok {}
    | some path => ofFile read path
  base.withVariables lookup

def backoff? (c : Config) : Except Fault BackoffTable :=
  match BackoffTable.ofSecs? c.backoffSecs with
  | .ok t => .ok t
  | .error why => .error (.misconfigured (.backoff why))

def validate (c : Config) : Except Fault Unit := do
  if c.workerCount = 0 then .error (.misconfigured .noWorkers)
  else if c.pollIntervalSecs = 0 then .error (.misconfigured .noPollInterval)
  else do
    let _ ← c.backoff?
    return ()

def pollInterval (c : Config) : Span := .ofSecs c.pollIntervalSecs

def dispatchConfig (c : Config) : Except Fault DispatchConfig := do
  return ⟨⟨c.maxErrorCount, ← c.backoff?⟩, c.pollInterval⟩

def workerPoolConfig (c : Config) : WorkerPoolConfig := ⟨c.workerCount, c.pollInterval⟩

def logging (c : Config) : LoggingSettings := ⟨c.logFilter, c.logJson⟩

end Config

end Herald
