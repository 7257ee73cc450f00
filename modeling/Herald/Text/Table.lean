import Std.Data.HashMap
/-!
Tables about characters, written as words. A table has come to a character, and a word says what
there is for it and goes on to the next. All numbers are hexadecimal:

* `@N` goes to the character `N`, `-N` goes `N` on, and `-` alone one;
* `A.B.C` is a list of code points for one character;
* `A+N` are `A`, `A` + 1 and so on for `N` characters in a row;
* `A~N` are `A`, `A` + 2 and so on for `N` characters, each the second after the one before it.
-/

set_option autoImplicit false

namespace Herald.Text

abbrev Table := Std.HashMap Nat (List Nat)

namespace Table

def number (s : List Char) : Nat :=
  s.foldl (fun n c =>
    if c.isDigit then 16 * n + (c.toNat - 48)
    else if 'A' ≤ c && c ≤ 'F' then 16 * n + (c.toNat - 55)
    else n) 0

def numbers (sep : Char) (s : List Char) : List Nat :=
  (s.splitBy fun a b => a != sep && b != sep).filterMap fun p => if p = [sep] then none
    else some (number p)

/-- The character come to, and what there is for those before it. -/
structure Cursor where
  place : Nat
  table : Table

namespace Cursor

def skip (c : Cursor) (n : Nat) : Cursor := { c with place := c.place + n }

def put (c : Cursor) (points : List Nat) : Cursor := ⟨c.place + 1, c.table.insert c.place points⟩

/-- Consecutive numbers for characters at a distance of `step`. -/
def putRun (c : Cursor) (step first count : Nat) : Cursor :=
  (List.range count).foldl (fun c i => (c.put [first + i * step]).skip (if i + 1 < count
    then step - 1 else 0)) c

def read (c : Cursor) (word : List Char) : Cursor :=
  match word with
  | '@' :: r => { c with place := number r }
  | ['-'] => c.skip 1
  | '-' :: r => c.skip (number r)
  | _ =>
    match numbers '+' word, numbers '~' word with
    | [first, count], _ => c.putRun 1 first count
    | _, [first, count] => c.putRun 2 first count
    | _, _ => c.put (numbers '.' word)

end Cursor

def words (s : List Char) : List (List Char) :=
  (s.splitBy fun a b => a != ' ' && b != ' ').filter (· ≠ [' '])

def ofLines (ls : List String) : Table :=
  (ls.foldl (fun c l => (words l.toList).foldl Cursor.read c) ⟨0, ∅⟩).table

end Table

end Herald.Text
