import Herald.Channel
import Herald.Registry
/-!
The push channels of a dispatcher. A channel replaces another of its id in two steps, the removal
and the addition, and the steps of other calls may come between.
-/

set_option autoImplicit false

namespace Herald

abbrev Roster (σ : Type) := Registry String (PushChannel σ)

namespace Roster

variable {σ : Type}

def clear (r : Roster σ) (id : String) : Roster σ := r.removeWhere fun c => c.id == id

def place (r : Roster σ) (c : PushChannel σ) : Roster σ := r.add c.id c

/-- Puts the channel in the place of one of its id, at the end. -/
def enlist (r : Roster σ) (c : PushChannel σ) : Roster σ := (r.clear c.id).place c

def dismiss (r : Roster σ) (id : String) : Bool × Roster σ :=
  ((r.find? fun c => c.id == id).isSome, r.clear id)

def ids (r : Roster σ) : List String := r.toList.map (·.id)

/-- The default preferences of the channels that have some; of channels of one id the last
counts. -/
def defaults (r : Roster σ) : Dict PushPreferences :=
  .ofList (r.toList.filterMap fun c => c.defaults.map (c.id, ·))

/-- A roster, and the channels whose calls are half-way. -/
structure Board (σ : Type) where
  roster : Roster σ
  pending : List (PushChannel σ)

inductive Step (σ : Type) where
  /-- A call to enlist the channel begins. -/
  | begin (c : PushChannel σ)
  /-- The call half-way that stands at this place ends. -/
  | complete (place : Nat)
  | dismiss (id : String)

def Board.step (b : Board σ) : Step σ → Board σ
  | .begin c => ⟨b.roster.clear c.id, b.pending ++ [c]⟩
  | .complete i =>
    match b.pending[i]? with
    | some c => ⟨b.roster.place c, b.pending.eraseIdx i⟩
    | none => b
  | .dismiss id => { b with roster := b.roster.clear id }

def Board.run (b : Board σ) (steps : List (Step σ)) : Board σ := steps.foldl Board.step b

/-- A call that nothing comes between. -/
theorem Board.run_enlist (r : Roster σ) (c : PushChannel σ) :
    (Board.mk r []).run [.begin c, .complete 0] = ⟨r.enlist c, []⟩ := rfl

end Roster

end Herald
