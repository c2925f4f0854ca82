/-
AgentState.Json.Quoted — what stands between the quotes of a string.

* `escape` — spells octets: quote, backslash and the control characters
  are escaped, all else stands for itself.
* `unescape?` — the octets that a spelling means.  Two `u` escapes make a
  character beyond the basic plane; half of such a pair means nothing.
* `text?`, `ofText` — the same between a spelling and a text.
-/
import AgentState.Text.Octets

namespace AgentState.Json.Quoted

open Octet

/-- The letter after the backslash for octets that have a short escape. -/
def shortEscapes : List (UInt8 × UInt8) :=
  [(quote, quote), (backslash, backslash), (0x08, 0x62), (0x09, 0x74),
   (0x0a, 0x6e), (0x0c, 0x66), (0x0d, 0x72)]

/-- The spelling of one octet. -/
def escapeOne (b : UInt8) : Octets :=
  match shortEscapes.lookup b with
  | some letter => [backslash, letter]
  | none =>
      if b < 0x20 then
        [backslash, 0x75, zero, zero, ofHexDigit (b.toNat / 16), ofHexDigit (b.toNat % 16)]
      else [b]

/-- The spelling of octets. -/
def escape (bs : Octets) : Octets := bs.flatMap escapeOne

/-- The octet that a letter after a backslash means. -/
def letterMeaning? (letter : UInt8) : Option UInt8 :=
  if letter = slash then some slash
  else (shortEscapes.find? (fun e => e.2 == letter)).map Prod.fst

/-- The value of four hexadecimal digits. -/
def hex4? (a b c d : UInt8) : Option Nat :=
  match hexValue? a, hexValue? b, hexValue? c, hexValue? d with
  | some a, some b, some c, some d => some (((a * 16 + b) * 16 + c) * 16 + d)
  | _, _, _, _ => none

/-- Whether a code unit is the first half of a pair. -/
def isHigh (n : Nat) : Bool := 0xd800 ≤ n && n < 0xdc00

/-- Whether a code unit is the second half of a pair. -/
def isLow (n : Nat) : Bool := 0xdc00 ≤ n && n < 0xe000

/-- The octets that a spelling means, if it means any. -/
def unescape? : Octets → Option Octets
  | [] => some []
  | b :: rest =>
      if b ≠ backslash then (unescape? rest).map (b :: ·)
      else match rest with
        | [] => none
        | letter :: rest =>
            if letter ≠ 0x75 then
              match letterMeaning? letter with
              | some m => (unescape? rest).map (m :: ·)
              | none => none
            else match rest with
              | h1 :: h2 :: h3 :: h4 :: rest =>
                  match hex4? h1 h2 h3 h4 with
                  | none => none
                  | some n =>
                      if isHigh n then
                        match rest with
                        | s :: u :: l1 :: l2 :: l3 :: l4 :: rest =>
                            if s = backslash ∧ u = 0x75 then
                              match hex4? l1 l2 l3 l4 with
                              | none => none
                              | some l =>
                                  if isLow l then
                                    let c := Char.ofNat
                                      (0x10000 + (n - 0xd800) * 0x400 + (l - 0xdc00))
                                    (unescape? rest).map (String.utf8EncodeChar c ++ ·)
                                  else none
                            else none
                        | _ => none
                      else if isLow n then none
                      else (unescape? rest).map (String.utf8EncodeChar (Char.ofNat n) ++ ·)
              | _ => none

/-- The text that a spelling means, if it means one. -/
def text? (raw : Octets) : Option String := (unescape? raw).bind textOf?

/-- The spelling of a text. -/
def ofText (s : String) : Octets := escape (octetsOf s)

end AgentState.Json.Quoted
