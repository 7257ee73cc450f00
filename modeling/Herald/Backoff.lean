import Herald.Time.Span
import Herald.Json.Fields
/-!
Tables of delays: the delay before the next attempt after the first failure, the second, and so
on, the last entry standing for all later ones. Delays never get shorter.
-/

set_option autoImplicit false

namespace Herald

inductive BackoffFault where
  | noEntry
  | decreasing
  deriving DecidableEq, Repr

def BackoffFault.message : BackoffFault → String
  | .noEntry => "backoff table must not be empty"
  | .decreasing => "backoff table must be non-decreasing"

namespace BackoffTable

def climbing : List Span → Bool
  | a :: b :: r => a.nanos ≤ b.nanos && climbing (b :: r)
  | _ => true

end BackoffTable

structure BackoffTable where
  delays : List Span
  ne_nil : delays ≠ []
  climbs : BackoffTable.climbing delays = true
  deriving DecidableEq, Repr

namespace BackoffTable

def ofSpans? (delays : List Span) : Except BackoffFault BackoffTable :=
  if h : delays = [] then .error .noEntry
  else if h' : climbing delays then .ok ⟨delays, h, h'⟩
  else .error .decreasing

def ofSecs? (secs : List UInt64) : Except BackoffFault BackoffTable := ofSpans? (secs.map .ofSecs)

/-- One minute, a quarter of an hour, two hours, a day and three days. -/
def standardSecs : List UInt64 := [60, 900, 7200, 86400, 259200]

def standard : BackoffTable := ⟨standardSecs.map .ofSecs, by decide, by decide⟩

instance : Inhabited BackoffTable := ⟨standard⟩

def delay (t : BackoffTable) (errorCount : UInt32) : Span :=
  match errorCount.toNat with
  | 0 => .zero
  | n + 1 => t.delays.getD n (t.delays.getLast t.ne_nil)

def secs (t : BackoffTable) : List UInt64 := t.delays.map Span.secs

def encode (t : BackoffTable) : Json := .array (t.secs.map fun s => .ofNat s.toNat)

def decode? (d : Json.Doc) : Option BackoffTable :=
  (d.list? Json.Doc.uint64?).bind fun l => (ofSecs? l).toOption

end BackoffTable

end Herald
