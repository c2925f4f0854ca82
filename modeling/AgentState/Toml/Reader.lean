/-
AgentState.Toml.Reader — from text to TOML documents.

* `value?` — a value; the depth bounds how deep arrays and inline tables
  nest.
* `lines?` — the lines of a document, one after the other: comments,
  headers, keys with their values.
* `Value.readToml?` — the document of a text.
-/
import AgentState.Toml.Draft
import AgentState.Toml.Moment
import AgentState.Toml.Number

namespace AgentState.Toml

/-- Takes a value from the front of a text. -/
abbrev ValueReader := List Char → Option (Value × List Char)

/-! ## Values -/

/-- A value that holds no others. -/
def scalar? : ValueReader
  | 't' :: 'r' :: 'u' :: 'e' :: rest => some (.boolean true, rest)
  | 'f' :: 'a' :: 'l' :: 's' :: 'e' :: rest => some (.boolean false, rest)
  | '"' :: rest => (string? ('"' :: rest)).map (fun r => (.text r.1, r.2))
  | '\'' :: rest => (string? ('\'' :: rest)).map (fun r => (.text r.1, r.2))
  | cs => if beginsDate cs || beginsTime cs then moment? cs else number? cs

/-- The items of an array after its opening bracket, at most `room` of
them.  A comma may follow the last one. -/
def items? (one : ValueReader) : Nat → List Char → Option (List Value × List Char)
  | 0, _ => none
  | room + 1, cs =>
      match dropGap cs with
      | ']' :: rest => some ([], rest)
      | cs => do
          let (v, rest) ← one cs
          match dropGap rest with
          | ']' :: rest => some ([v], rest)
          | ',' :: rest => (items? one room rest).map (fun r => (v :: r.1, r.2))
          | _ => none

/-- The pairs of an inline table, at least one and at most `room`.  No
comma follows the last one. -/
def pairs? (one : ValueReader) :
    Nat → List Char → Option (List ((List String × String) × Value) × List Char)
  | 0, _ => none
  | room + 1, cs => do
      let (key, rest) ← key? cs
      match rest with
      | '=' :: rest =>
          let (v, rest) ← one (dropSpace rest)
          match dropSpace rest with
          | '}' :: rest => some ([(key, v)], rest)
          | ',' :: rest => (pairs? one room rest).map (fun r => ((key, v) :: r.1, r.2))
          | _ => none
      | _ => none

/-- An inline table after its opening brace. -/
def inlineTable? (one : ValueReader) : ValueReader := fun cs =>
  match dropSpace cs with
  | '}' :: rest => some (.table [], rest)
  | _ => do
      let (pairs, rest) ← pairs? one (cs.length + 1) cs
      let es ← pairs.foldlM (fun (es : Entries) p => es.put? p.1.1 p.1.2 p.2) []
      some (es.value, rest)

/-- A value with at most `depth` arrays and inline tables around its
parts. -/
def value? : Nat → ValueReader
  | 0 => fun cs =>
      match cs with
      | '[' :: _ => none
      | '\x7b' :: _ => none
      | cs => scalar? cs
  | depth + 1 => fun cs =>
      match cs with
      | '[' :: rest =>
          (items? (value? depth) (rest.length + 1) rest).map (fun r => (.array r.1, r.2))
      | '\x7b' :: rest => inlineTable? (value? depth) rest
      | cs => scalar? cs

/-- How deep arrays and inline tables may nest. -/
def depthLimit : Nat := 79

/-! ## Lines -/

/-- A header after its first bracket. -/
def header? (d : Draft) : List Char → Option (Draft × List Char)
  | '[' :: cs => do
      let ((path, name), rest) ← key? cs
      match rest with
      | ']' :: ']' :: rest => (d.openElement? path name).map (fun d => (d, rest))
      | _ => none
  | cs => do
      let ((path, name), rest) ← key? cs
      match rest with
      | ']' :: rest => (d.openTable? path name).map (fun d => (d, rest))
      | _ => none

/-- A key and its value. -/
def pair? (d : Draft) (cs : List Char) : Option (Draft × List Char) := do
  let ((path, name), rest) ← key? cs
  match rest with
  | '=' :: rest =>
      let (v, rest) ← value? depthLimit (dropSpace rest)
      (d.put? path name v).map (fun d => (d, rest))
  | _ => none

/-- What a line says, and what follows it on the line. -/
def line? (d : Draft) : List Char → Option (Draft × List Char)
  | '[' :: rest => header? d rest
  | '#' :: rest => some (d, '#' :: rest)
  | '\n' :: rest => some (d, '\n' :: rest)
  | '\r' :: rest => some (d, '\r' :: rest)
  | cs => pair? d cs

/-- Adds at most `room` lines to a draft. -/
def lines? : Nat → Draft → List Char → Option Draft
  | 0, _, _ => none
  | room + 1, d, cs =>
      if (dropSpace cs).isEmpty then some d
      else do
        let (d, rest) ← line? d (dropSpace cs)
        let rest ← lineEnd? rest
        lines? room d rest

/-- The document of a text.  A byte order mark at its front is skipped. -/
def read? (s : String) : Option Value :=
  let cs := match s.toList with
    | '\ufeff' :: rest => rest
    | cs => cs
  (lines? (cs.length + 1) .empty cs).map (fun d => d.root.value)

end AgentState.Toml
