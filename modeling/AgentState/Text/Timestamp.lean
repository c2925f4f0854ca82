/-
AgentState.Text.Timestamp — points of time as text.

* `Timestamp.write` — date, `T`, time, as many of 0, 3, 6 or 9 fraction
  digits as the nanoseconds need, `Z`.  Years outside 0..9999 carry a
  sign.  A leap second is the second behind its own: second 60 at the end
  of a minute.
* `Timestamp.read?` — the same text and more: white space between the
  parts, a blank or a lower-case `t` before the time, shorter numbers, an
  offset from UTC, and fraction digits past the ninth, which are dropped.
-/
import AgentState.Calendar
import AgentState.Clock
import AgentState.Text.Blank
import AgentState.Text.Decimal

namespace AgentState.Timestamp

/-- A digit character's value. -/
def digitOf (c : Char) : Nat := c.toNat - 48

/-- Two digits. -/
def two (n : Nat) : List Char := (Decimal.padded 2 n).map Nat.digitChar

/-- Four digits; years that need a sign or a fifth digit have a sign. -/
def year (y : Int) : List Char :=
  let ds := (Decimal.padded 4 y.natAbs).map Nat.digitChar
  if 0 ≤ y ∧ y ≤ 9999 then ds
  else (if y < 0 then '-' else '+') :: ds

/-- The fraction of a second in the shortest of the widths 0, 3, 6, 9. -/
def fraction (nanos : Nat) : List Char :=
  if nanos = 0 then []
  else if nanos % 1000000 = 0 then
    '.' :: (Decimal.padded 3 (nanos / 1000000)).map Nat.digitChar
  else if nanos % 1000 = 0 then
    '.' :: (Decimal.padded 6 (nanos / 1000)).map Nat.digitChar
  else '.' :: (Decimal.padded 9 nanos).map Nat.digitChar

/-- The characters of a point of time. -/
def chars (t : WallTime) : List Char :=
  let date := Date.ofDay t.day
  let secs := t.secondOfDay.toNat
  let isLeap := 1000000000 ≤ t.nanos
  let second := if isLeap then secs % 60 + 1 else secs % 60
  let nanos := if isLeap then t.nanos - 1000000000 else t.nanos
  year date.year ++ '-' :: two date.month ++ '-' :: two date.day ++
    'T' :: two (secs / 3600) ++ ':' :: two (secs / 60 % 60) ++ ':' :: two second ++
    fraction nanos ++ ['Z']

/-- A point of time as text. -/
def write (t : WallTime) : String := String.ofList (chars t)

/-! ## Reading -/

/-- The number at the front: one digit or more, at most `limit`. -/
def number (limit : Nat) (cs : List Char) : Option (Nat × List Char) :=
  let ds := (cs.take limit).takeWhile Char.isDigit
  if ds = [] then none
  else some (Decimal.value (ds.map digitOf), cs.drop ds.length)

/-- A number after white space. -/
def field (limit : Nat) (cs : List Char) : Option (Nat × List Char) :=
  number limit (dropBlank cs)

/-- A given character after white space. -/
def sign (c : Char) (cs : List Char) : Option (List Char) :=
  match dropBlank cs with
  | d :: rest => if d = c then some rest else none
  | [] => none

/-- A year: up to four digits, or a sign and any number of digits. -/
def readYear (cs : List Char) : Option (Int × List Char) :=
  match dropBlank cs with
  | '-' :: rest => (number rest.length rest).map (fun r => (-(r.1 : Int), r.2))
  | '+' :: rest => (number rest.length rest).map (fun r => ((r.1 : Int), r.2))
  | rest => (number 4 rest).map (fun r => ((r.1 : Int), r.2))

/-- A fraction of a second, in nanoseconds.  Only the first nine digits
count; no point means zero. -/
def readFraction (cs : List Char) : Option (Nat × List Char) :=
  match cs with
  | '.' :: rest =>
      let ds := (rest.take 9).takeWhile Char.isDigit
      if ds = [] then none
      else
        some (Decimal.value (ds.map digitOf) * Nat.pow 10 (9 - ds.length),
          (rest.drop ds.length).dropWhile Char.isDigit)
  | _ => some (0, cs)

/-- Hours and minutes at the front, which colons and white space may part,
in seconds. -/
def hoursMinutes (cs : List Char) : Option (Nat × List Char) :=
  match cs with
  | h1 :: h2 :: rest =>
      if h1.isDigit && h2.isDigit then
        match rest.dropWhile (fun c => c == ':' || isBlank c) with
        | m1 :: m2 :: rest =>
            if m1.isDigit && m2.isDigit && digitOf m1 < 6 then
              some ((10 * digitOf h1 + digitOf h2) * 3600 + (10 * digitOf m1 + digitOf m2) * 60,
                rest)
            else none
        | _ => none
      else none
  | _ => none

/-- The offset from UTC in seconds: `Z`, the letters `UTC`, or a sign with hours and
minutes. -/
def readOffset (cs : List Char) : Option (Int × List Char) :=
  match cs with
  | 'Z' :: rest => some (0, rest)
  | 'z' :: rest => some (0, rest)
  | '+' :: rest => (hoursMinutes rest).map (fun r => ((r.1 : Int), r.2))
  | '-' :: rest => (hoursMinutes rest).map (fun r => (-(r.1 : Int), r.2))
  | '−' :: rest => (hoursMinutes rest).map (fun r => (-(r.1 : Int), r.2))
  | a :: b :: c :: rest =>
      if a.toUpper = 'U' ∧ b.toUpper = 'T' ∧ c.toUpper = 'C' then some (0, rest) else none
  | _ => none

/-- The years that dates can have. -/
def yearInRange (y : Int) : Bool := -262143 ≤ y && y ≤ 262142

/-- The point of time of a date, a time of day and an offset: what the clock
shows there, less the offset.  Second 60 is the leap second after second
59. -/
def assemble (date : Date) (hour minute second nanos : Nat) (offset : Int) : Option WallTime :=
  if date.isValid && yearInRange date.year && decide (hour < 24) && decide (minute < 60) &&
      decide (second ≤ 60) && decide (offset.natAbs < 86400) then
    let plain := if second = 60 then 59 else second
    let more := if second = 60 then 1000000000 else 0
    let clock := WallTime.ofParts?
      (date.toDay * 86400 + (hour * 3600 + minute * 60 + plain : Nat)) (nanos + more)
    clock.bind (·.earlier? offset)
  else none

/-- The time of day at the front, after the separator. -/
def readTime (cs : List Char) : Option ((Nat × Nat × Nat × Nat) × List Char) := do
  let (hour, cs) ← field 2 cs
  let cs ← sign ':' cs
  let (minute, cs) ← field 2 cs
  let cs ← sign ':' cs
  let (second, cs) ← field 2 cs
  let (nanos, cs) ← readFraction cs
  some ((hour, minute, second, nanos), cs)

/-- The date at the front. -/
def readDate (cs : List Char) : Option (Date × List Char) := do
  let (y, cs) ← readYear cs
  let cs ← sign '-' cs
  let (m, cs) ← field 2 cs
  let cs ← sign '-' cs
  let (d, cs) ← field 2 cs
  some (⟨y, m, d⟩, cs)

/-- What is behind the separator of date and time. -/
def separated (cs : List Char) : Option (List Char) :=
  match cs with
  | c :: rest => if c = 'T' ∨ c = 't' ∨ c = ' ' then some rest else none
  | [] => none

/-- The point of time that characters name. -/
def readChars? (cs : List Char) : Option WallTime := do
  let (date, cs) ← readDate cs
  let cs ← separated cs
  let ((hour, minute, second, nanos), cs) ← readTime cs
  let (offset, cs) ← readOffset (dropBlank cs)
  if (dropBlank cs).isEmpty then assemble date hour minute second nanos offset else none

/-- The point of time that a text names. -/
def read? (s : String) : Option WallTime := readChars? s.toList

end AgentState.Timestamp
