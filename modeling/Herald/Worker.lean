import Herald.Bell
import Herald.Delivery
/-!
Workers that empty the queue. A worker makes one attempt after another until nothing is due, and
then waits for the bell. When the pool stops, none begins another attempt, and each ends the one
that it is in.
-/

set_option autoImplicit false

namespace Herald

inductive Worker (S σ : Type) where
  /-- Is about to look whether to stop. -/
  | turning
  /-- Makes an attempt, which will say whether to make another at once. -/
  | inside (d : Delivery S σ Bool)
  /-- Found nothing to do. -/
  | resting
  | waiting
  | stopped

/-- What the workers share apart from their work. -/
structure Shift where
  started : Bool := false
  cancelled : Bool := false
  /-- Those who stop the pool wait for its workers only if none did before them. -/
  joined : Bool := false
  deriving DecidableEq, Repr

def Shift.isRunning (s : Shift) : Bool := s.started && !s.cancelled

namespace Worker

variable {S σ τ : Type}

/-- Whether the answer to a request for the next attempt calls for another one. -/
def goesOn : Except Fault (Option Processing) → Bool
  | .ok (some _) => true
  | _ => false

variable [Store S]

def enter : Worker S σ := .inside (Delivery.processNext.map goesOn)

def isStopped : Worker S σ → Bool
  | .stopped => true
  | _ => false

def isPausing : Worker S σ → Bool
  | .inside d => d.isPausing
  | _ => false

variable [DecidableEq τ]

def canStep (place : Nat) (task : τ) (sh : Shift) (b : Bell) (l : KeyLock τ Int) : Worker S σ → Bool
  | .turning | .resting => true
  | .inside d => d.answer?.isSome || d.canStep task l
  | .waiting => sh.cancelled || !b.isInLine place
  | .stopped => false

/-- One step of the worker at this place. One that waits goes on when it is out of the line. -/
def step (d : Dispatcher σ) (place : Nat) (task : τ) (now : Instant) (sh : Shift) (b : Bell)
    (l : KeyLock τ Int) (w : World S σ) : Worker S σ → Worker S σ × Bell × KeyLock τ Int × World S σ
  | .turning => (if sh.cancelled then .stopped else enter, b, l, w)
  | .inside c =>
    match c.answer? with
    | some more => (if more then .turning else .resting, b, l, w)
    | none =>
      let (c, l, w) := c.step d task now l w
      (.inside c, b, l, w)
  | .resting =>
    if sh.cancelled then (.stopped, b, l, w)
    else
      let (rung, b) := b.await place
      (if rung then .turning else .waiting, b, l, w)
  | .waiting =>
    if !b.isInLine place then (.turning, b, l, w)
    else if sh.cancelled then (.stopped, b.leave place, l, w)
    else (.waiting, b, l, w)
  | .stopped => (.stopped, b, l, w)

end Worker

inductive StartCall where
  | asking
  /-- The pool was not cancelled. -/
  | claiming
  /-- No other call has started the pool. -/
  | hiring
  | returned
  deriving DecidableEq, Repr

inductive StopCall where
  | cancelling
  | joining
  /-- Waits for the workers hired so far, so many. -/
  | waiting (hired : Nat)
  | returned
  deriving DecidableEq, Repr

namespace StartCall

variable {S σ : Type}

/-- The workers are hired all at once, unless somebody has come to wait for them already. -/
def step (count : Nat) (sh : Shift) (ws : List (Worker S σ)) :
    StartCall → StartCall × Shift × List (Worker S σ)
  | .asking => (if sh.cancelled then .returned else .claiming, sh, ws)
  | .claiming => if sh.started then (.returned, sh, ws)
    else (.hiring, { sh with started := true }, ws)
  | .hiring => (.returned, sh, if sh.joined then ws else ws ++ List.replicate count .turning)
  | .returned => (.returned, sh, ws)

end StartCall

namespace StopCall

variable {S σ : Type}

def step (sh : Shift) (ws : List (Worker S σ)) : StopCall → StopCall × Shift
  | .cancelling => (.joining, { sh with cancelled := true })
  | .joining => (if sh.joined then .returned else .waiting ws.length, { sh with joined := true })
  | .waiting hired => (if (ws.take hired).all Worker.isStopped then .returned
    else .waiting hired, sh)
  | .returned => (.returned, sh)

end StopCall

end Herald
