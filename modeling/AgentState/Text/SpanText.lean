/-
AgentState.Text.SpanText — a length of time for people to read.

`Span.text` writes a span in the largest of the units s, ms, µs and ns
that it reaches, with as many decimals as it needs and none it does not.
-/
import AgentState.Clock
import AgentState.Text.Decimal

namespace AgentState.Span

/-- A fraction's digits without zeros at the end. -/
def trimZeros (ds : List Nat) : List Nat := (ds.reverse.dropWhile (· == 0)).reverse

/-- A whole number and a fraction of `width` digits. -/
def mixed (whole : Nat) (width frac : Nat) : String :=
  let ds := trimZeros (Decimal.padded width frac)
  Decimal.write whole ++ (if ds = [] then "" else "." ++ Decimal.text ds)

/-- The span in its unit. -/
def text (s : Span) : String :=
  if 0 < s.seconds then mixed s.seconds.toNat 9 s.nanos ++ "s"
  else if 1000000 ≤ s.nanos then mixed (s.nanos / 1000000) 6 (s.nanos % 1000000) ++ "ms"
  else if 1000 ≤ s.nanos then mixed (s.nanos / 1000) 3 (s.nanos % 1000) ++ "µs"
  else Decimal.write s.nanos ++ "ns"

end AgentState.Span
