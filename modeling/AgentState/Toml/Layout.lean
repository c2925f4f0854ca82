/-
AgentState.Toml.Layout — what stands between the parts of a document.

* `dropSpace` — white space inside a line.
* `newline?`, `comment?` — the end of a line and what may stand before it.
* `lineEnd?` — the rest of a line that has nothing more to say.
* `dropGap` — white space over several lines, as arrays allow it.
-/

namespace AgentState.Toml

/-- White space inside a line. -/
def isSpace (c : Char) : Bool := c == ' ' || c == '\t'

def dropSpace (cs : List Char) : List Char := cs.dropWhile isSpace

/-- Characters of comments: no control character but the tab. -/
def isPlain (c : Char) : Bool := c == '\t' || (' ' ≤ c && c ≤ '~') || '\x80' ≤ c

/-- What follows a line break. -/
def newline? : List Char → Option (List Char)
  | '\n' :: rest => some rest
  | '\r' :: '\n' :: rest => some rest
  | _ => none

/-- What follows a line break or the end of the text. -/
def lineBreak? (cs : List Char) : Option (List Char) :=
  if cs.isEmpty then some [] else newline? cs

/-- What follows a comment, if there is one. -/
def dropComment : List Char → List Char
  | '#' :: rest => rest.dropWhile isPlain
  | cs => cs

/-- What follows a line on which only a comment is left. -/
def lineEnd? (cs : List Char) : Option (List Char) := lineBreak? (dropComment (dropSpace cs))

/-- What follows white space, comments and line breaks.  A comment counts
only with the line break after it. -/
def dropGapLines : Nat → List Char → List Char
  | 0, cs => cs
  | lines + 1, cs =>
      match newline? (dropComment (dropSpace cs)) with
      | some rest => dropGapLines lines rest
      | none => dropSpace cs

def dropGap (cs : List Char) : List Char := dropGapLines (cs.length + 1) cs

end AgentState.Toml
