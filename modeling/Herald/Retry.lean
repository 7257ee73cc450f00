import Herald.Fault
/-!
The states of a notification from attempt to attempt. Queued is the only one that an attempt may
leave; a failure that may pass stays in it, with a later date, until there are too many of them.
-/

set_option autoImplicit false

namespace Herald

structure RetryPolicy where
  maxErrorCount : UInt32 := 3
  backoff : BackoffTable := .standard
  deriving DecidableEq, Repr

namespace RetryPolicy

instance : Inhabited RetryPolicy := ⟨{}⟩

def encode (p : RetryPolicy) : Json :=
  .object [("max_error_count", .ofNat p.maxErrorCount.toNat), ("backoff", p.backoff.encode)]

def decode? (d : Json.Doc) : Option RetryPolicy := do
  let f ← d.fields? ["max_error_count", "backoff"]
  return ⟨← f.withDefault "max_error_count" Json.Doc.uint32? 3,
    ← f.withDefault "backoff" BackoffTable.decode? .standard⟩

/-- The state after an attempt that ends in `result`, with so many failures before it. -/
def nextState (p : RetryPolicy) (errorCount : UInt32) : PushResult → PushState
  | .success => .pushed
  | .persistentError => .undeliverable
  | .temporaryError => if p.maxErrorCount < countUp errorCount then .undeliverable else .queued

end RetryPolicy

namespace Notification

/-- An attempt at `now`: the state that it leads to, or why it is refused, and the notification
after it. One in a final state takes no attempt. -/
def undergo (n : Notification) (o : Outcome) (p : RetryPolicy) (now : Instant) :
    Except Fault PushState × Notification :=
  let next := p.nextState n.push.errorCount o.result
  if n.push.state.isTerminal then
    (.error (.transition (Named.name n.push.state) (Named.name next)), n)
  else if o.isSuccess then
    (.ok .pushed,
      { n with push := { n.push with state := .pushed, date := now, errorMessage := none } })
  else
    let m := n.recordError (o.message.getD (Named.name o.result))
    let date := if next = .queued then now.plus (p.backoff.delay m.push.errorCount) else now
    (.ok next, { m with push := { m.push with state := next, date } })

def recordAttempt (n : Notification) (o : Outcome) (p : RetryPolicy) (now : Instant) :
    Except Fault Notification :=
  let (r, m) := n.undergo o p now
  r.map fun _ => m

end Notification

end Herald
