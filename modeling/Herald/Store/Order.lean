import Herald.Time.Instant
/-!
Orders of what is stored: by a date, and by number on the same date.
-/

set_option autoImplicit false

namespace Herald

section

variable {α δ : Type} [LT δ] [DecidableLT δ] [DecidableEq δ] (date : α → δ) (number : α → Int)

/-- Not after the other. -/
def inOrder (a b : α) : Bool := date a < date b || (date a = date b && number a ≤ number b)

def earliestOf : List α → Option α
  | [] => none
  | a :: l =>
    match earliestOf l with
    | none => some a
    | some b => if inOrder date number a b then some a else some b

variable {date number}

theorem mem_of_earliestOf {l : List α} {a : α} (h : earliestOf date number l = some a) : a ∈ l := by
  induction l generalizing a with
  | nil => cases h
  | cons b l ih =>
    rw [earliestOf] at h
    split at h
    · cases h
      exact List.mem_cons_self
    · next c hc =>
      split at h
      · cases h
        exact List.mem_cons_self
      · cases h
        exact List.mem_cons_of_mem b (ih hc)

end

end Herald
