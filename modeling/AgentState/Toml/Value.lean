/-
AgentState.Toml.Value — TOML documents.
-/

namespace AgentState.Toml

/-- A value of a document.  A date, a time or both are kept as they are
spelled. -/
inductive Value where
  | text (s : String)
  | integer (n : Int)
  | real (x : Float)
  | boolean (b : Bool)
  | moment (spelling : String)
  | array (items : List Value)
  | table (entries : List (String × Value))
  deriving Inhabited

end AgentState.Toml
