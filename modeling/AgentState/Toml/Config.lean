/-
AgentState.Toml.Config — settings from TOML documents.

`CoreConfig.ofToml` reads and validates; what it accepts has no problems.
A list in the place of a record gives the fields in order, and more items
than fields do not matter.
-/
import AgentState.Config.Document
import AgentState.Toml.Reader

namespace AgentState

namespace Toml.Value

/-- A record with the given fields. -/
def record? (names : List String) : Value → Option (Record Value)
  | .table entries => Record.ofNamed? names entries
  | .array items => some (Record.ofListed names items)
  | .moment _ => Record.ofNamed? names []
  | _ => none

/-- A number below 2^64. -/
def word? : Value → Option UInt64
  | .integer n => if 0 ≤ n then some (UInt64.ofNat n.toNat) else none
  | _ => none

/-- A real number; an integer is one, too. -/
def real? : Value → Option Float
  | .real x => some x
  | .integer n => some (Float.ofInt n)
  | _ => none

/-- The name of a choice: a text, or the one key of a table with nothing
under it. -/
def choice? : Value → Option String
  | .text s => some s
  | .table [(k, .table [])] => some k
  | .table [(k, .array [])] => some k
  | _ => none

instance : Document Value where
  record? := record?
  word? := word?
  real? := real?
  choice? := choice?

end Toml.Value

namespace CoreConfig

/-- The settings of a TOML document. -/
def ofToml (text : String) : Except ConfigError CoreConfig :=
  let settings? : Toml.Value → Option CoreConfig := CoreConfig.read?
  match (Toml.read? text).bind settings? with
  | none => .error .unreadable
  | some config => config.validate.map (fun _ => config)

end CoreConfig

end AgentState
