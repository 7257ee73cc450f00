import Herald.Engine
/-!
An engine put together from a configuration, whose enqueues wake its workers, and whose end can be
asked for from outside.
-/

set_option autoImplicit false

namespace Herald

structure Container (S σ α : Type) where
  config : Config
  engine : Engine S σ α
  isShuttingDown : Bool

namespace Container

variable {S σ α : Type}

def wire (c : Config) (p : Dispatcher.Parts S σ) (now : Instant) (outside : σ) :
    Except Fault (Container S σ α) := do
  let config ← c.dispatchConfig
  let (d, s) ← Dispatcher.ofParts { p with config }
  let hall : Hall S σ := .create now ⟨s, outside⟩ d (.empty .empty) c.workerCount.toNat
  return ⟨c, .ofHall hall.heedEnqueues, false⟩

def ofStore (c : Config) (p : Dispatcher.Parts S σ) (now : Instant) (outside : σ) :
    Except Fault (Container S σ α) := do
  c.validate
  wire c p now outside

def opening (c : Config) (openStore : String → Except Fault S)
    (p : Dispatcher.Parts S σ) (now : Instant) (outside : σ) : Except Fault (Container S σ α) := do
  c.validate
  let s ← openStore c.databaseUrl
  wire c { p with store := some s } now outside

def cancel (c : Container S σ α) : Container S σ α :=
  { c with isShuttingDown := true, engine.hall.shift.cancelled := true }

/-- Stops the workers, and then closes the store. -/
def closing (a : Hall S σ → α) (close : S → S) : Call S σ α :=
  .stopping .cancelling fun h => (a h, { h with world.store := close h.world.store })

def shutdown [Store S] (fuel : Nat) (a : Hall S σ → α) (close : S → S) (c : Container S σ α) :
    Option α × Container S σ α :=
  let c := c.cancel
  let (a, engine) := c.engine.call fuel (closing a close)
  (a, { c with engine })

end Container

end Herald
