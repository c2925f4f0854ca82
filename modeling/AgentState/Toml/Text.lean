/-
AgentState.Toml.Text — strings and keys.

Four forms of strings: in quotes, with escapes; in apostrophes, without;
and both over several lines between three of them.  A reader takes what
follows the opening mark and leaves what follows the closing one.

* `basic?`, `literal?`, `basicLines?`, `literalLines?` — the four forms.
* `key?` — a key of one or more parts.
-/
import AgentState.Toml.Layout

namespace AgentState.Toml

/-- Characters that stand for themselves between quotes. -/
def isBasic (c : Char) : Bool := isPlain c && c != '"' && c != '\\'

/-- Characters that stand for themselves between apostrophes. -/
def isLiteral (c : Char) : Bool := isPlain c && c != '\''

/-- The character that a letter after a backslash means. -/
def escapeMeaning? (c : Char) : Option Char :=
  [('b', '\x08'), ('f', '\x0c'), ('n', '\n'), ('r', '\r'), ('t', '\t'), ('\\', '\\'),
   ('"', '"')].lookup c

/-- The value of a hexadecimal digit. -/
def hexDigit? (c : Char) : Option Nat :=
  if '0' ≤ c && c ≤ '9' then some (c.toNat - 48)
  else if 'A' ≤ c && c ≤ 'F' then some (c.toNat - 55)
  else if 'a' ≤ c && c ≤ 'f' then some (c.toNat - 87)
  else none

/-- The character of a code point in hexadecimal digits. -/
def scalarOf? (ds : List Char) : Option Char := do
  let ns ← ds.mapM hexDigit?
  let n := ns.foldl (fun acc d => 16 * acc + d) 0
  if n.isValidChar then some (Char.ofNat n) else none

/-- Puts a character in front of what has been read. -/
def consChar (c : Char) (r : List Char × List Char) : List Char × List Char := (c :: r.1, r.2)

/-- A string in quotes. -/
def basic? : List Char → Option (List Char × List Char)
  | [] => none
  | '"' :: rest => some ([], rest)
  | '\\' :: 'u' :: a :: b :: c :: d :: rest => do
      let ch ← scalarOf? [a, b, c, d]
      (basic? rest).map (consChar ch)
  | '\\' :: 'U' :: a :: b :: c :: d :: e :: f :: g :: h :: rest => do
      let ch ← scalarOf? [a, b, c, d, e, f, g, h]
      (basic? rest).map (consChar ch)
  | '\\' :: letter :: rest => do
      let ch ← escapeMeaning? letter
      (basic? rest).map (consChar ch)
  | c :: rest => if isBasic c then (basic? rest).map (consChar c) else none

/-- A string in apostrophes. -/
def literal? : List Char → Option (List Char × List Char)
  | [] => none
  | '\'' :: rest => some ([], rest)
  | c :: rest => if isLiteral c then (literal? rest).map (consChar c) else none

/-- The marks that belong to the text in front of three closing ones: at
most two. -/
def spareMarks (mark : Char) : List Char → List Char × List Char
  | a :: b :: rest =>
      if a = mark && b = mark then ([mark, mark], rest)
      else if a = mark then ([mark], b :: rest)
      else ([], a :: b :: rest)
  | [a] => if a = mark then ([mark], []) else ([], [a])
  | [] => ([], [])

/-- A string between three quotes.  After a backslash at the end of a line
`trim` holds until something else than white space comes. -/
def basicLines? (trim : Bool) : List Char → Option (List Char × List Char)
  | [] => none
  | '"' :: '"' :: '"' :: rest => some (spareMarks '"' rest)
  | '"' :: rest => (basicLines? false rest).map (consChar '"')
  | '\n' :: rest =>
      if trim then basicLines? true rest else (basicLines? false rest).map (consChar '\n')
  | '\r' :: '\n' :: rest =>
      if trim then basicLines? true rest else (basicLines? false rest).map (consChar '\n')
  | '\\' :: 'u' :: a :: b :: c :: d :: rest => do
      let ch ← scalarOf? [a, b, c, d]
      (basicLines? false rest).map (consChar ch)
  | '\\' :: 'U' :: a :: b :: c :: d :: e :: f :: g :: h :: rest => do
      let ch ← scalarOf? [a, b, c, d, e, f, g, h]
      (basicLines? false rest).map (consChar ch)
  | '\\' :: letter :: rest =>
      if (newline? (dropSpace (letter :: rest))).isSome then basicLines? true (letter :: rest)
      else do
        let ch ← escapeMeaning? letter
        (basicLines? false rest).map (consChar ch)
  | c :: rest =>
      if trim && isSpace c then basicLines? true rest
      else if isBasic c then (basicLines? false rest).map (consChar c)
      else none

/-- A string between three apostrophes. -/
def literalLines? : List Char → Option (List Char × List Char)
  | [] => none
  | '\'' :: '\'' :: '\'' :: rest => some (spareMarks '\'' rest)
  | '\'' :: rest => (literalLines? rest).map (consChar '\'')
  | '\n' :: rest => (literalLines? rest).map (consChar '\n')
  | '\r' :: '\n' :: rest => (literalLines? rest).map (consChar '\n')
  | c :: rest => if isLiteral c then (literalLines? rest).map (consChar c) else none

/-- The text after a line break directly behind the opening marks. -/
def dropFirstBreak (cs : List Char) : List Char := (newline? cs).getD cs

/-- A string in any of the four forms, with its opening mark. -/
def string? (cs : List Char) : Option (String × List Char) :=
  let found := match cs with
    | '"' :: '"' :: '"' :: rest => basicLines? false (dropFirstBreak rest)
    | '"' :: rest => basic? rest
    | '\'' :: '\'' :: '\'' :: rest => literalLines? (dropFirstBreak rest)
    | '\'' :: rest => literal? rest
    | _ => none
  found.map (fun r => (String.ofList r.1, r.2))

/-! ## Keys -/

/-- Characters of keys without quotes. -/
def isBare (c : Char) : Bool := c.isAlphanum || c == '-' || c == '_'

/-- One part of a key. -/
def keyPart? : List Char → Option (String × List Char)
  | '"' :: rest => (basic? rest).map (fun r => (String.ofList r.1, r.2))
  | '\'' :: rest => (literal? rest).map (fun r => (String.ofList r.1, r.2))
  | cs =>
      if (cs.takeWhile isBare).isEmpty then none
      else some (String.ofList (cs.takeWhile isBare), cs.dropWhile isBare)

/-- The most parts of a key. -/
def keyLimit : Nat := 79

/-- A key of at most `limit` parts with points between them.  White space
may stand around every part. -/
def keyParts? : Nat → List Char → Option (List String × List Char)
  | 0, _ => none
  | limit + 1, cs => do
      let (part, rest) ← keyPart? (dropSpace cs)
      match dropSpace rest with
      | '.' :: rest => (keyParts? limit rest).map (fun r => (part :: r.1, r.2))
      | rest => some ([part], rest)

/-- A key: the parts that lead to it, and its own name. -/
def key? (cs : List Char) : Option ((List String × String) × List Char) := do
  let (parts, rest) ← keyParts? keyLimit cs
  let last ← parts.getLast?
  some ((parts.dropLast, last), rest)

end AgentState.Toml
