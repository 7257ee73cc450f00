import Herald.Dict
import Herald.KeyLock
/-!
Keys in the hands of named holders. A holder has one key at a time, and lets it go for another; it
may wait for any number of keys, and give up waiting for the one that it asked for last.
-/

set_option autoImplicit false

namespace Herald

structure KeyHolders where
  /-- Each claim is a task of its own, by its number. -/
  locks : KeyLock (String × Nat) String
  /-- The claims by which the holders have their keys. -/
  having : Dict Nat
  /-- The last claims for which the holders began to wait. -/
  asking : Dict Nat
  claimed : Nat

namespace KeyHolders

def empty : KeyHolders := ⟨.empty, .empty, .empty, 0⟩

def held (h : KeyHolders) : Dict String := .ofList (h.locks.held.map fun e => (e.1.1, e.2))

/-- The holder has the key of its claim now, and no other. -/
def take (h : KeyHolders) (task : String × Nat) : KeyHolders :=
  { h with
    locks := ((h.having.get? task.1).map fun old => h.locks.unlock (task.1, old)).getD h.locks
    having := h.having.insert task.1 task.2 }

def tryLock (h : KeyHolders) (name key : String) : Option String × KeyHolders :=
  let (k, locks) := h.locks.tryLock (name, h.claimed) key
  let h' := { h with locks, claimed := h.claimed + 1 }
  (k, if k.isSome then h'.take (name, h.claimed) else h')

def lock (h : KeyHolders) (name key : String) : KeyHolders :=
  { h with
    locks := h.locks.fetch (name, h.claimed) key
    asking := h.asking.insert name h.claimed
    claimed := h.claimed + 1 }

def release (h : KeyHolders) (name : String) : Bool × KeyHolders :=
  match h.having.get? name with
  | some claim =>
    (true, { h with locks := h.locks.unlock (name, claim), having := h.having.erase name })
  | none => (false, h)

def cancel (h : KeyHolders) (name : String) : KeyHolders :=
  match h.asking.get? name with
  | some claim => { h with locks := h.locks.cancel (name, claim) }
  | none => h

def serveTimes : Nat → KeyHolders → List String × KeyHolders
  | 0, h => ([], h)
  | fuel + 1, h =>
    let (served, locks) := h.locks.serve
    if served = [] then ([], h)
    else
      let (more, h) := serveTimes fuel (served.foldl take { h with locks })
      (served.map (·.1) ++ more, h)

/-- Gives free keys to those that wait for them until no more can have one; with their names. -/
def serve (h : KeyHolders) : List String × KeyHolders := serveTimes h.locks.claims.length h

end KeyHolders

end Herald
