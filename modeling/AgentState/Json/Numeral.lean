/-
AgentState.Json.Numeral — what the spelling of a number means.

* `Numeral` — sign, digits, fraction and exponent of a spelling;
  `Numeral.read?` accepts exactly the spellings of the format.
* `Numeral.integer?` — the integer, for a spelling without fraction and
  exponent.  A negative zero is no integer.
* `Numeral.real?` — the float.  The digits that fit sixty-four bits make
  an integer, which is scaled by a power of ten.
-/
import AgentState.Text.Decimal

namespace AgentState.Json

open Octet

/-- The parts of a number's spelling.  No fraction digits mean that there
is no point. -/
structure Numeral where
  negative : Bool
  whole : List Nat
  fraction : List Nat
  exponent : Option (Bool × List Nat)

namespace Numeral

/-- The digits at the front, and what follows them. -/
def span (bs : Octets) : List Nat × Octets :=
  ((bs.takeWhile isDigit).map digitValue, bs.dropWhile isDigit)

/-- An exponent, or nothing when the spelling ends. -/
def readExponent? (bs : Octets) : Option (Option (Bool × List Nat)) :=
  match bs with
  | [] => some none
  | e :: rest =>
      if e = 0x65 ∨ e = 0x45 then
        let (negative, rest) := match rest with
          | s :: rest' =>
              if s = minus then (true, rest') else if s = plus then (false, rest') else (false, rest)
          | [] => (false, [])
        let (ds, rest) := span rest
        if ds ≠ [] ∧ rest = [] then some (some (negative, ds)) else none
      else none

/-- The parts of a spelling. -/
def read? (bs : Octets) : Option Numeral :=
  let (negative, bs) := match bs with
    | b :: rest => if b = minus then (true, rest) else (false, bs)
    | [] => (false, [])
  let (whole, bs) := span bs
  if whole = [] ∨ (whole.head? = some 0 ∧ 1 < whole.length) then none
  else match bs with
    | b :: rest =>
        if b = point then
          let (fraction, rest) := span rest
          if fraction = [] then none
          else (readExponent? rest).map (fun e => ⟨negative, whole, fraction, e⟩)
        else (readExponent? bs).map (fun e => ⟨negative, whole, [], e⟩)
    | [] => some ⟨negative, whole, [], none⟩

/-- The integer that a spelling writes. -/
def integer? (n : Numeral) : Option Int :=
  if n.fraction ≠ [] ∨ n.exponent.isSome then none
  else
    let v := Decimal.value n.whole
    if n.negative then (if v = 0 then none else some (-(v : Int))) else some v

/-- Appends digits to an integer while it stays below 2^64, and counts the
digits that no longer fit. -/
def gather : List Nat → Nat → Nat × Nat
  | [], acc => (acc, 0)
  | d :: rest, acc =>
      if 10 * acc + d < UInt64.size then gather rest (10 * acc + d)
      else (acc, rest.length + 1)

/-- Ten to a power, as a float. -/
def powerOfTen (n : Nat) : Float := Float.ofScientific 1 false n

/-- A float times a power of ten, in steps that stay in range.  There is
none when the product has no float. -/
def scale : Nat → Float → Int → Option Float
  | 0, f, _ => some f
  | steps + 1, f, e =>
      if e.natAbs ≤ 308 then
        if 0 ≤ e then
          let product := f * powerOfTen e.toNat
          if product.isInf then none else some product
        else some (f / powerOfTen e.natAbs)
      else if f == 0 then some f
      else if 0 ≤ e then none
      else scale steps (f / powerOfTen 308) (e + 308)

/-- The largest exponent that is looked at; a larger one means zero or
nothing. -/
def exponentLimit : Nat := 2147483647

/-- The size of the number that a spelling writes. -/
def size? (n : Numeral) : Option Float :=
  let (lead, dropped) := gather n.whole 0
  let (digits, skipped) := gather n.fraction lead
  let shift : Int := dropped - (n.fraction.length - skipped : Nat)
  match n.exponent with
  | none => scale 4 digits.toUInt64.toFloat shift
  | some (down, ds) =>
      let e := Decimal.value ds
      if exponentLimit < e then
        if digits ≠ 0 ∧ down = false then none else some 0
      else scale 4 digits.toUInt64.toFloat (if down then shift - e else shift + e)

/-- The float that a spelling writes. -/
def real? (n : Numeral) : Option Float :=
  n.size?.map (fun f => if n.negative then -f else f)

end Numeral

end AgentState.Json
