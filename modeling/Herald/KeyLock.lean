/-!
Locks by key. A key has a handle as long as some claim on it stands, and the tasks that claim the
key share it; one of them at a time holds it. A claim ends in two steps, between which others may
come: the handle is let go, and then dropped if nobody else has it.
-/

set_option autoImplicit false

namespace Herald

namespace Claim

inductive Phase where
  | waiting
  | holding
  /-- The handle is let go, and perhaps still to be dropped. -/
  | leaving
  deriving DecidableEq, Repr

end Claim

structure Claim (τ κ : Type) where
  task : τ
  key : κ
  handle : Nat
  phase : Claim.Phase
  deriving DecidableEq, Repr

/-- Refers to its handle. -/
def Claim.isStanding {τ κ : Type} (c : Claim τ κ) : Bool := c.phase != .leaving

/-- The handles by key, the claims in the order in which they were made, and how many handles there
have been. -/
structure KeyLock (τ κ : Type) where
  handles : List (κ × Nat)
  claims : List (Claim τ κ)
  made : Nat
  deriving Repr

namespace KeyLock

variable {τ κ : Type}

def empty : KeyLock τ κ := ⟨[], [], 0⟩

instance : Inhabited (KeyLock τ κ) := ⟨empty⟩

def size (l : KeyLock τ κ) : Nat := l.handles.length

def isEmpty (l : KeyLock τ κ) : Bool := l.handles.isEmpty

def held (l : KeyLock τ κ) : List (τ × κ) :=
  (l.claims.filter (·.phase == .holding)).map fun c => (c.task, c.key)

def summary (l : KeyLock τ κ) : String :=
  "KeyLock \x7b keys: " ++ String.ofList (Nat.toDigits 10 l.size) ++ " \x7d"

def isHeld (l : KeyLock τ κ) (handle : Nat) : Bool :=
  l.claims.any fun c => c.handle == handle && c.phase == .holding

def isShared (l : KeyLock τ κ) (handle : Nat) : Bool :=
  l.claims.any fun c => c.handle == handle && c.isStanding

variable [DecidableEq τ]

def claim? (l : KeyLock τ κ) (task : τ) : Option (Claim τ κ) := l.claims.find? (·.task = task)

def awaits (l : KeyLock τ κ) (task : τ) : Bool := (l.claim? task).any (·.phase == .waiting)

def move (l : KeyLock τ κ) (task : τ) (source target : Claim.Phase) : KeyLock τ κ :=
  { l with claims := l.claims.map fun c =>
      if c.task = task && c.phase == source then { c with phase := target } else c }

/-- The task's claim gets the key, unless another has it. -/
def enter? (l : KeyLock τ κ) (task : τ) : Option (KeyLock τ κ) :=
  match l.claim? task with
  | some c =>
    if c.phase == .waiting && !l.isHeld c.handle then some (l.move task .waiting .holding) else none
  | none => none

def abandon (l : KeyLock τ κ) (task : τ) : KeyLock τ κ := l.move task .waiting .leaving

def release (l : KeyLock τ κ) (task : τ) : KeyLock τ κ := l.move task .holding .leaving

variable [DecidableEq κ]

def handle? (l : KeyLock τ κ) (key : κ) : Option Nat := (l.handles.find? (·.1 = key)).map (·.2)

/-- The task claims the key, under the key's handle or a new one. -/
def fetch (l : KeyLock τ κ) (task : τ) (key : κ) : KeyLock τ κ :=
  match l.handle? key with
  | some h => { l with claims := l.claims ++ [⟨task, key, h, .waiting⟩] }
  | none => ⟨l.handles ++ [(key, l.made)], l.claims ++ [⟨task, key, l.made, .waiting⟩], l.made + 1⟩

/-- The task's claim ends. Its key's handle goes with it unless a claim on that still stands. -/
def evict (l : KeyLock τ κ) (task : τ) : KeyLock τ κ :=
  match l.claims.find? fun c => c.task = task && c.phase == .leaving with
  | none => l
  | some c =>
    { l with
      handles := l.handles.filter fun e => e.1 ≠ c.key || l.isShared e.2
      claims := l.claims.filter fun d => !(d.task = task && d.phase == .leaving) }

def tryLock (l : KeyLock τ κ) (task : τ) (key : κ) : Option κ × KeyLock τ κ :=
  let l := l.fetch task key
  match l.enter? task with
  | some l => (some key, l)
  | none => (none, (l.abandon task).evict task)

def unlock (l : KeyLock τ κ) (task : τ) : KeyLock τ κ := (l.release task).evict task

/-- Ends the task's waiting; one that holds its key keeps it. -/
def cancel (l : KeyLock τ κ) (task : τ) : KeyLock τ κ :=
  if l.awaits task then (l.abandon task).evict task else l

/-- Gives free keys to those that wait for them, first come, first served; with the tasks that got
theirs. -/
def serve (l : KeyLock τ κ) : List τ × KeyLock τ κ :=
  (l.claims.filter (·.phase == .waiting)).foldl (fun (served, l) c =>
    match l.enter? c.task with
    | some l => (served ++ [c.task], l)
    | none => (served, l)) ([], l)

end KeyLock

end Herald
