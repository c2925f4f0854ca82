/-
AgentState.Toml.Number — integers and real numbers.

* `digits?` — digits with single underscores between them.
* `radixInteger?` — integers in base sixteen, eight and two.
* `number?` — a number in base ten; one with a fraction or an exponent is
  real and is read to the nearest float.
-/
import AgentState.Toml.Value
import AgentState.Toml.Text
import AgentState.Text.Decimal

namespace AgentState.Toml

/-- A digit in a base of at most sixteen. -/
def digitIn? (base : Nat) (c : Char) : Option Nat :=
  (hexDigit? c).bind (fun d => if d < base then some d else none)

/-- The digits after the first one.  Every underscore stands between two
digits. -/
def moreDigits? (base : Nat) : List Char → Option (List Nat × List Char)
  | [] => some ([], [])
  | '_' :: c :: rest => do
      let d ← digitIn? base c
      (moreDigits? base rest).map (fun r => (d :: r.1, r.2))
  | c :: rest =>
      match digitIn? base c with
      | some d => (moreDigits? base rest).map (fun r => (d :: r.1, r.2))
      | none => if c = '_' then none else some ([], c :: rest)

/-- One digit or more. -/
def digits? (base : Nat) : List Char → Option (List Nat × List Char)
  | [] => none
  | c :: rest => do
      let d ← digitIn? base c
      (moreDigits? base rest).map (fun r => (d :: r.1, r.2))

/-- The digits of a number in base ten; a leading zero stands alone. -/
def wholeDigits? : List Char → Option (List Nat × List Char)
  | '0' :: rest => some ([0], rest)
  | cs => digits? 10 cs

/-- The number that digits write in a base. -/
def valueIn (base : Nat) (ds : List Nat) : Nat := ds.foldl (fun acc d => base * acc + d) 0

/-- An integer of sixty-four bits. -/
def integer? (n : Int) : Option Value :=
  if -9223372036854775808 ≤ n ∧ n ≤ 9223372036854775807 then some (.integer n) else none

/-- An integer with its base in front. -/
def radixInteger? (base : Nat) (cs : List Char) : Option (Value × List Char) := do
  let (ds, rest) ← digits? base cs
  let v ← integer? (valueIn base ds)
  some (v, rest)

/-- A sign, and whether it is a minus. -/
def sign : List Char → Bool × List Char
  | '-' :: rest => (true, rest)
  | '+' :: rest => (false, rest)
  | cs => (false, cs)

/-- An exponent; `some none` when there is none. -/
def exponent? : List Char → Option (Option Int × List Char)
  | c :: rest =>
      if c = 'e' ∨ c = 'E' then do
        let (down, rest) := sign rest
        let (ds, rest) ← digits? 10 rest
        let n : Int := valueIn 10 ds
        some (some (if down then -n else n), rest)
      else some (none, c :: rest)
  | [] => some (none, [])

/-- The float nearest to digits times a power of ten.  Zeros in front do not
count towards the size of the number; floats reach neither ten to the 400
nor ten to the -400. -/
def nearest (ds : List Nat) (power : Int) : Float :=
  let significant := ds.dropWhile (· == 0)
  let size : Int := power + significant.length
  if significant.isEmpty then 0.0
  else if 400 < size then 1.0 / 0.0
  else if size < -400 then 0.0
  else Float.ofScientific (valueIn 10 significant) (power < 0) power.natAbs

/-- A real number of a sign, whole digits, fraction and exponent.  One too
large for a float is refused unless it is negative. -/
def real? (negative : Bool) (whole fraction : List Nat) (exponent : Int) : Option Value :=
  let x := nearest (whole ++ fraction) (exponent - fraction.length)
  if negative then some (.real (-x))
  else if x.isInf then none
  else some (.real x)

/-- A number in base ten after its sign. -/
def unsigned? (negative : Bool) (cs : List Char) : Option (Value × List Char) := do
  let (whole, rest) ← wholeDigits? cs
  match rest with
  | '.' :: rest =>
      let (fraction, rest) ← digits? 10 rest
      let (e, rest) ← exponent? rest
      let v ← real? negative whole fraction (e.getD 0)
      some (v, rest)
  | rest =>
      let (e, rest) ← exponent? rest
      match e with
      | some e =>
          let v ← real? negative whole [] e
          some (v, rest)
      | none =>
          let n : Int := valueIn 10 whole
          let v ← integer? (if negative then -n else n)
          some (v, rest)

/-- The numbers that have no digits. -/
def special? (negative : Bool) : List Char → Option (Value × List Char)
  | 'i' :: 'n' :: 'f' :: rest =>
      some (.real (if negative then -1.0 / 0.0 else 1.0 / 0.0), rest)
  | 'n' :: 'a' :: 'n' :: rest => some (.real (0.0 / 0.0), rest)
  | _ => none

/-- A number. -/
def number? : List Char → Option (Value × List Char)
  | '0' :: 'x' :: rest => radixInteger? 16 rest
  | '0' :: 'o' :: rest => radixInteger? 8 rest
  | '0' :: 'b' :: rest => radixInteger? 2 rest
  | cs =>
      let (negative, rest) := sign cs
      match special? negative rest with
      | some found => some found
      | none => unsigned? negative rest

end AgentState.Toml
