import Herald.Channel
/-!
A bell that wakes one waiter a ring, the one that has waited for longest. A ring that finds nobody
waiting is kept, once, for the next who comes.
-/

set_option autoImplicit false

namespace Herald

structure Bell where
  kept : Bool
  line : List Nat
  deriving DecidableEq, Repr

namespace Bell

def quiet : Bell := ⟨false, []⟩

instance : Inhabited Bell := ⟨quiet⟩

def ring (b : Bell) : Bell :=
  match b.line with
  | [] => { b with kept := true }
  | _ :: ws => { b with line := ws }

def isInLine (b : Bell) (w : Nat) : Bool := b.line.contains w

/-- Either takes the kept ring, or joins the line. -/
def await (b : Bell) (w : Nat) : Bool × Bell :=
  if b.kept then (true, { b with kept := false }) else (false, { b with line := b.line ++ [w] })

def leave (b : Bell) (w : Nat) : Bell := { b with line := b.line.filter (· ≠ w) }

end Bell

namespace Listener

variable {ε σ : Type}

def ringing : Listener ε (σ × Bell) := ⟨fun _ s => (.done, s.1, s.2.ring)⟩

def besideBell (l : Listener ε σ) : Listener ε (σ × Bell) :=
  ⟨fun e s =>
    let (h, o) := l.hear e s.1
    (h, o, s.2)⟩

end Listener

end Herald
