/-!
Naturals in decimal digits. A leading plus sign and zeros are fine; blanks are not.
-/

set_option autoImplicit false

namespace Herald.Text

inductive NaturalFault where
  | empty
  | invalidDigit
  | tooLarge
  deriving DecidableEq, Repr

def NaturalFault.message : NaturalFault → String
  | .empty => "cannot parse integer from empty string"
  | .invalidDigit => "invalid digit found in string"
  | .tooLarge => "number too large to fit in target type"

/-- Digits after those of `n`; of two faults the one further left counts. -/
def readDigitsBelow (limit n : Nat) : List Char → Except NaturalFault Nat
  | [] => .ok n
  | c :: r =>
    if '0' ≤ c ∧ c ≤ '9' then
      let m := n * 10 + (c.toNat - 48)
      if m < limit then readDigitsBelow limit m r else .error .tooLarge
    else .error .invalidDigit

def readBelow (limit : Nat) : List Char → Except NaturalFault Nat
  | [] => .error .empty
  | ['+'] => .error .invalidDigit
  | '+' :: r => readDigitsBelow limit 0 r
  | s => readDigitsBelow limit 0 s

end Herald.Text
