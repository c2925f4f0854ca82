/-
AgentState.Json.Reader — from octets to documents.

* `Scanner` — takes octets one at a time and gathers tokens.
* `Builder` — takes tokens one at a time and keeps the containers that
  are still open.
* `Value.read?` — the document that octets spell.

Both machines look at each octet or token once and never look ahead, so
what they do on a longer input begins with what they do on a shorter one.
No bound is put on how deep containers nest.
-/
import AgentState.Json.Value
import AgentState.Json.Numeral

namespace AgentState.Json

open Octet

/-- The pieces of a document.  A `word` is a number or one of the three
names. -/
inductive Token where
  | openArray
  | closeArray
  | openObject
  | closeObject
  | comma
  | colon
  | string (raw : Octets)
  | word (letters : Octets)
  deriving DecidableEq

/-! ## Scanning -/

/-- What the octets seen last belong to.  Octets are kept newest first. -/
inductive Scanner.Mode where
  | between
  | word (taken : Octets)
  | string (taken : Octets)
  | escape (taken : Octets)
  | code (taken : Octets) (left : Nat)

/-- The tokens so far, newest first, and what is being read. -/
structure Scanner where
  tokens : List Token
  mode : Scanner.Mode

namespace Scanner

/-- White space between tokens. -/
def isSpace (b : UInt8) : Bool :=
  b == space || b == lineFeed || b == tab || b == carriageReturn

/-- The token of a single octet. -/
def punctuation? (b : UInt8) : Option Token :=
  if b = openBracket then some .openArray
  else if b = closeBracket then some .closeArray
  else if b = openBrace then some .openObject
  else if b = closeBrace then some .closeObject
  else if b = Octet.comma then some .comma
  else if b = Octet.colon then some .colon
  else none

/-- Takes an octet outside of words and strings. -/
def free (tokens : List Token) (b : UInt8) : Scanner :=
  if isSpace b then ⟨tokens, .between⟩
  else match punctuation? b with
    | some t => ⟨t :: tokens, .between⟩
    | none => if b = quote then ⟨tokens, .string []⟩ else ⟨tokens, .word [b]⟩

/-- Whether an octet ends a word. -/
def endsWord (b : UInt8) : Bool := isSpace b || (punctuation? b).isSome || b == quote

/-- The letters that may follow a backslash, the `u` apart. -/
def isEscapeLetter (b : UInt8) : Bool :=
  b == quote || b == backslash || b == slash || b == 0x62 || b == 0x66 || b == 0x6e ||
    b == 0x72 || b == 0x74

/-- Takes one octet. -/
def step (s : Scanner) (b : UInt8) : Option Scanner :=
  match s.mode with
  | .between => some (free s.tokens b)
  | .word taken =>
      if endsWord b then some (free (.word taken.reverse :: s.tokens) b)
      else some ⟨s.tokens, .word (b :: taken)⟩
  | .string taken =>
      if b = quote then some ⟨.string taken.reverse :: s.tokens, .between⟩
      else if b = backslash then some ⟨s.tokens, .escape (b :: taken)⟩
      else if b < 0x20 then none
      else some ⟨s.tokens, .string (b :: taken)⟩
  | .escape taken =>
      if b = 0x75 then some ⟨s.tokens, .code (b :: taken) 4⟩
      else if isEscapeLetter b then some ⟨s.tokens, .string (b :: taken)⟩
      else none
  | .code taken left =>
      if (hexValue? b).isNone then none
      else if left ≤ 1 then some ⟨s.tokens, .string (b :: taken)⟩
      else some ⟨s.tokens, .code (b :: taken) (left - 1)⟩

/-- The tokens at the end of the input; a string has to be closed. -/
def finish? (s : Scanner) : Option (List Token) :=
  match s.mode with
  | .between => some s.tokens.reverse
  | .word taken => some (Token.word taken.reverse :: s.tokens).reverse
  | _ => none

/-- Before the first octet. -/
def start : Scanner := ⟨[], .between⟩

end Scanner

/-- The tokens of octets. -/
def tokens? (bs : Octets) : Option (List Token) :=
  (bs.foldlM Scanner.step Scanner.start).bind Scanner.finish?

/-! ## Building -/

/-- A container that is still open; what it holds is kept newest first. -/
inductive Frame where
  | array (items : List Value)
  | member (members : List (Octets × Value)) (key : Octets)

/-- What may come next.  `frames` holds the open containers, innermost
first. -/
inductive Builder where
  | value (frames : List Frame)
  | firstItem (frames : List Frame)
  | firstKey (frames : List Frame)
  | key (members : List (Octets × Value)) (frames : List Frame)
  | colon (members : List (Octets × Value)) (key : Octets) (frames : List Frame)
  | complete (v : Value) (frames : List Frame)

namespace Builder

/-- The document of a word. -/
def scalar? (letters : Octets) : Option Value :=
  if letters = octetsOf "null" then some .null
  else if letters = octetsOf "true" then some (.bool true)
  else if letters = octetsOf "false" then some (.bool false)
  else if (Numeral.read? letters).isSome then some (.number letters)
  else none

/-- Takes the first token of a value. -/
def begin? (t : Token) (frames : List Frame) : Option Builder :=
  match t with
  | .openArray => some (.firstItem frames)
  | .openObject => some (.firstKey frames)
  | .string raw => some (.complete (.string raw) frames)
  | .word letters => (scalar? letters).map (fun v => .complete v frames)
  | _ => none

/-- Takes one token. -/
def step (s : Builder) (t : Token) : Option Builder :=
  match s, t with
  | .value frames, t => begin? t frames
  | .firstItem frames, .closeArray => some (.complete (.array []) frames)
  | .firstItem frames, t => begin? t (.array [] :: frames)
  | .firstKey frames, .closeObject => some (.complete (.object []) frames)
  | .firstKey frames, .string k => some (.colon [] k frames)
  | .key members frames, .string k => some (.colon members k frames)
  | .colon members k frames, .colon => some (.value (.member members k :: frames))
  | .complete v (.array items :: frames), .comma => some (.value (.array (v :: items) :: frames))
  | .complete v (.array items :: frames), .closeArray =>
      some (.complete (.array (v :: items).reverse) frames)
  | .complete v (.member members k :: frames), .comma => some (.key ((k, v) :: members) frames)
  | .complete v (.member members k :: frames), .closeObject =>
      some (.complete (.object ((k, v) :: members).reverse) frames)
  | _, _ => none

/-- The document at the end of the tokens, when no container is open. -/
def finish? : Builder → Option Value
  | .complete v [] => some v
  | _ => none

end Builder

/-- The document that tokens spell. -/
def Value.ofTokens? (ts : List Token) : Option Value :=
  (ts.foldlM Builder.step (Builder.value [])).bind Builder.finish?

/-- The document that octets spell. -/
def Value.read? (bs : Octets) : Option Value := (tokens? bs).bind Value.ofTokens?

end AgentState.Json
