import Herald.Text.Blank
import Herald.Time.Instant
/-!
Timestamps as text. Writing has one form for each instant and zone mark; reading also takes other
offsets, other separators, blanks between the parts, and digits beyond the nanoseconds.
-/

set_option autoImplicit false

namespace Herald.Instant

def padded (width n : Nat) : List Char :=
  let ds := Nat.toDigits 10 n
  List.replicate (width - ds.length) '0' ++ ds

/-- Years of more or less than four digits carry a sign. -/
def writeYear (y : Int) : List Char :=
  if 0 ≤ y && y ≤ 9999 then padded 4 y.toNat
  else (if y < 0 then '-' else '+') :: padded 4 y.natAbs

/-- No fraction, or three, six or nine digits, whichever is exact first. -/
def writeFraction (nanos : Nat) : List Char :=
  if nanos = 0 then []
  else if nanos % 1000000 = 0 then '.' :: padded 3 (nanos / 1000000)
  else if nanos % 1000 = 0 then '.' :: padded 6 (nanos / 1000)
  else '.' :: padded 9 nanos

def date (t : Instant) : Date := Date.ofDays (t.secs / 86400)

def write (t : Instant) : List Char :=
  let d := t.date
  let s := (t.secs % 86400).toNat
  writeYear d.year ++ '-' :: padded 2 d.month ++ '-' :: padded 2 d.day ++
    'T' :: padded 2 (s / 3600) ++ ':' :: padded 2 (s / 60 % 60) ++
    ':' :: padded 2 (s % 60 + t.nanos / 1000000000) ++ writeFraction (t.nanos % 1000000000)

def toZulu (t : Instant) : String := String.ofList (t.write ++ ['Z'])

def toText (t : Instant) : String := String.ofList (t.write ++ "+00:00".toList)

def digit (c : Char) : Bool := '0' ≤ c && c ≤ '9'

def number (ds : List Char) : Nat := ds.foldl (fun n c => 10 * n + (c.toNat - 48)) 0

def readNumber? (most : Nat) (s : List Char) : Option (Nat × List Char) :=
  match (s.take most).takeWhile digit with
  | [] => none
  | ds => some (number ds, s.drop ds.length)

def readYear? (s : List Char) : Option (Int × List Char) :=
  match s with
  | '-' :: r => (readNumber? r.length r).map fun (n, r) => (-(n : Int), r)
  | '+' :: r => (readNumber? r.length r).map fun (n, r) => ((n : Int), r)
  | s => (readNumber? 4 s).map fun (n, r) => ((n : Int), r)

def readPart? (c : Char) (s : List Char) : Option (Nat × List Char) :=
  match Text.trimStart s with
  | d :: r => if d = c then readNumber? 2 (Text.trimStart r) else none
  | [] => none

/-- Nanoseconds of a second; digits after the ninth are dropped. -/
def readFraction? : List Char → Option (Nat × List Char)
  | '.' :: r =>
    match r.takeWhile digit with
    | [] => none
    | ds => some (number ((ds ++ List.replicate 9 '0').take 9), r.dropWhile digit)
  | s => some (0, s)

def upper (c : Char) : Char := c.toUpper

/-- Seconds east of UTC: `Z`, `UTC`, or a sign with two digits of hours and two of minutes. -/
def readOffset? (s : List Char) : Option (Int × List Char) :=
  match s with
  | 'Z' :: r | 'z' :: r => some (0, r)
  | a :: r =>
    if (s.take 3).map upper = ['U', 'T', 'C'] then some (0, s.drop 3)
    else if a = '+' || a = '-' || a = '−' then
      match r with
      | h :: h' :: r =>
        match r.dropWhile (fun c => c = ':' || Text.isBlank c) with
        | m :: m' :: r =>
          if digit h && digit h' && digit m && digit m' && number [m, m'] < 60 then
            let n : Int := number [h, h'] * 3600 + number [m, m'] * 60
            some (if a = '+' then n else -n, r)
          else none
        | _ => none
      | _ => none
    else none
  | [] => none

/-- The instant of a date and time of day at an offset. The sixtieth second is an inserted one. -/
def ofCivil? (d : Date) (hour minute second nanos : Nat) (offset : Int) : Option Instant :=
  if d.exists? && -262143 ≤ d.year && d.year ≤ 262142 && hour < 24 && minute < 60 && second ≤ 60 &&
      offset.natAbs < 86400 then
    let s := d.toDays * 86400 + hour * 3600 + minute * 60 + min second 59 - offset
    ofSecs? s (if second = 60 then nanos + 1000000000 else nanos)
  else none

def readList? (s : List Char) : Option Instant := do
  let (y, s) ← readYear? (Text.trimStart s)
  let (m, s) ← readPart? '-' s
  let (d, s) ← readPart? '-' s
  let s ← match s with
    | 'T' :: r | 't' :: r | ' ' :: r => some r
    | _ => none
  let (hour, s) ← readNumber? 2 (Text.trimStart s)
  let (minute, s) ← readPart? ':' s
  let (second, s) ← readPart? ':' s
  let (nanos, s) ← readFraction? s
  let (offset, s) ← readOffset? (Text.trimStart s)
  if Text.allBlank s then ofCivil? ⟨y, m, d⟩ hour minute second nanos offset else none

def read? (s : String) : Option Instant := readList? s.toList

end Herald.Instant
