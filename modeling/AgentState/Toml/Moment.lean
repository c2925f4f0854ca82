/-
AgentState.Toml.Moment — dates and times.

Four digits and a dash begin a date, two digits and a colon begin a time;
nothing else does.  A date may have a time behind it, and that an offset.
-/
import AgentState.Calendar
import AgentState.Toml.Value
import AgentState.Text.Decimal

namespace AgentState.Toml

/-- A number of exactly so many digits. -/
def fixedDigits? (width : Nat) (cs : List Char) : Option (Nat × List Char) :=
  let ds := cs.take width
  if ds.length = width ∧ ds.all Char.isDigit then
    some (Decimal.value (ds.map (fun c => c.toNat - 48)), cs.drop width)
  else none

/-- Two digits between bounds. -/
def twoDigits? (low high : Nat) (cs : List Char) : Option (Nat × List Char) := do
  let (n, rest) ← fixedDigits? 2 cs
  if low ≤ n ∧ n ≤ high then some (n, rest) else none

/-- What follows a given character. -/
def after? (c : Char) : List Char → Option (List Char)
  | d :: rest => if d = c then some rest else none
  | [] => none

/-- Whether a date begins here. -/
def beginsDate (cs : List Char) : Bool :=
  ((fixedDigits? 4 cs).bind (fun r => after? '-' r.2)).isSome

/-- Whether a time begins here. -/
def beginsTime (cs : List Char) : Bool :=
  ((fixedDigits? 2 cs).bind (fun r => after? ':' r.2)).isSome

/-- What follows a fraction of a second, if there is one. -/
def dropFraction : List Char → List Char
  | '.' :: c :: rest => if c.isDigit then (c :: rest).dropWhile Char.isDigit else '.' :: c :: rest
  | cs => cs

/-- What follows a time of day. -/
def afterTime? (cs : List Char) : Option (List Char) := do
  let (_, rest) ← twoDigits? 0 23 cs
  let rest ← after? ':' rest
  let (_, rest) ← twoDigits? 0 59 rest
  let rest ← after? ':' rest
  let (_, rest) ← twoDigits? 0 60 rest
  some (dropFraction rest)

/-- What follows an offset, if there is one. -/
def afterOffset? : List Char → Option (List Char)
  | c :: rest =>
      if c = 'Z' ∨ c = 'z' then some rest
      else if c = '+' ∨ c = '-' then do
        let (_, rest) ← twoDigits? 0 23 rest
        let rest ← after? ':' rest
        let (_, rest) ← twoDigits? 0 59 rest
        some rest
      else some (c :: rest)
  | [] => some []

/-- What follows a date. -/
def afterDate? (cs : List Char) : Option (List Char) := do
  let (year, rest) ← fixedDigits? 4 cs
  let rest ← after? '-' rest
  let (month, rest) ← twoDigits? 1 12 rest
  let rest ← after? '-' rest
  let (day, rest) ← twoDigits? 1 31 rest
  if Date.isValid ⟨year, month, day⟩ then
    match rest with
    | c :: more =>
        if (c = 'T' ∨ c = 't' ∨ c = ' ') ∧ beginsTime more then do
          let rest ← afterTime? more
          afterOffset? rest
        else some (c :: more)
    | [] => some []
  else none

/-- A date, a time or both. -/
def moment? (cs : List Char) : Option (Value × List Char) :=
  let rest := if beginsDate cs then afterDate? cs else afterTime? cs
  rest.map (fun rest => (.moment (String.ofList (cs.take (cs.length - rest.length))), rest))

end AgentState.Toml
