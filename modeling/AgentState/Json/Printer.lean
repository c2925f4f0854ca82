/-
AgentState.Json.Printer — from documents to octets.

* `Layout` — what stands between the tokens: nothing in `Layout.compact`;
  a line for every item and two more blanks for every container around it
  in `Layout.pretty`.
* `Value.render` — a document in a layout.
-/
import AgentState.Json.Value

namespace AgentState.Json

open Octet

/-- The white space of a printed document: what comes before an item at a
depth, and what comes after the colon of a member. -/
structure Layout where
  lineBreak : Nat → Octets
  afterColon : Octets

namespace Layout

/-- No white space at all. -/
def compact : Layout := ⟨fun _ => [], []⟩

/-- One line for each item. -/
def pretty : Layout := ⟨fun depth => lineFeed :: List.replicate (2 * depth) space, [space]⟩

end Layout

/-- A string in its quotes. -/
def quoted (raw : Octets) : Octets := quote :: raw ++ [quote]

mutual

/-- A document at a depth. -/
def Value.renderAt (lay : Layout) (depth : Nat) : Value → Octets
  | .null => octetsOf "null"
  | .bool true => octetsOf "true"
  | .bool false => octetsOf "false"
  | .number lexeme => lexeme
  | .string raw => quoted raw
  | .array [] => [openBracket, closeBracket]
  | .array (v :: rest) =>
      openBracket :: lay.lineBreak (depth + 1) ++ v.renderAt lay (depth + 1) ++
        renderItems lay (depth + 1) rest ++ lay.lineBreak depth ++ [closeBracket]
  | .object [] => [openBrace, closeBrace]
  | .object ((k, v) :: rest) =>
      openBrace :: lay.lineBreak (depth + 1) ++ quoted k ++ colon :: lay.afterColon ++
        v.renderAt lay (depth + 1) ++
        renderMembers lay (depth + 1) rest ++ lay.lineBreak depth ++ [closeBrace]

/-- The items after the first. -/
def renderItems (lay : Layout) (depth : Nat) : List Value → Octets
  | [] => []
  | v :: rest =>
      comma :: lay.lineBreak depth ++ v.renderAt lay depth ++ renderItems lay depth rest

/-- The members after the first. -/
def renderMembers (lay : Layout) (depth : Nat) : List (Octets × Value) → Octets
  | [] => []
  | (k, v) :: rest =>
      comma :: lay.lineBreak depth ++ quoted k ++ colon :: lay.afterColon ++
        v.renderAt lay depth ++ renderMembers lay depth rest

end

/-- A document in a layout. -/
def Value.render (lay : Layout) (v : Value) : Octets := v.renderAt lay 0

end AgentState.Json
