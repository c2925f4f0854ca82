/-
AgentState.Json.Value — JSON documents.

A `Value` keeps numbers and strings as they are spelled.  What a number
or a string means is asked for only where it is used, so a member that
nobody reads may hold a number out of every range or a string that is no
text.
-/
import AgentState.Text.Octets

namespace AgentState.Json

/-- A JSON document.  `number` holds the spelling of a number, `string`
and the keys of `object` what stands between the quotes. -/
inductive Value where
  | null
  | bool (b : Bool)
  | number (lexeme : Octets)
  | string (raw : Octets)
  | array (items : List Value)
  | object (members : List (Octets × Value))
  deriving Inhabited

end AgentState.Json
