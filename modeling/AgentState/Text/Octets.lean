/-
AgentState.Text.Octets — text as octets.

* `Octets` — a list of octets, `octetsOf` and `textOf?` — a text and its
  UTF-8 form; `textOf?` refuses what is no UTF-8.
* Names and classes of the ASCII octets that the formats use.
-/

namespace AgentState

/-- Octets in order. -/
abbrev Octets := List UInt8

/-- The UTF-8 form of a text. -/
def octetsOf (s : String) : Octets := s.toUTF8.data.toList

/-- The text of a UTF-8 form. -/
def textOf? (bs : Octets) : Option String := String.fromUTF8? ⟨bs.toArray⟩

/-- Every text is read back from its UTF-8 form. -/
theorem textOf?_octetsOf (s : String) : textOf? (octetsOf s) = some s := by
  have hb : (⟨(octetsOf s).toArray⟩ : ByteArray) = s.toUTF8 := by
    simp [octetsOf]
  unfold textOf? String.fromUTF8?
  rw [hb, String.toUTF8_eq_toByteArray, dif_pos s.isValidUTF8]
  rfl

namespace Octet

def tab : UInt8 := 0x09
def lineFeed : UInt8 := 0x0a
def carriageReturn : UInt8 := 0x0d
def space : UInt8 := 0x20
def quote : UInt8 := 0x22
def plus : UInt8 := 0x2b
def comma : UInt8 := 0x2c
def minus : UInt8 := 0x2d
def point : UInt8 := 0x2e
def slash : UInt8 := 0x2f
def zero : UInt8 := 0x30
def colon : UInt8 := 0x3a
def openBracket : UInt8 := 0x5b
def backslash : UInt8 := 0x5c
def closeBracket : UInt8 := 0x5d
def openBrace : UInt8 := 0x7b
def closeBrace : UInt8 := 0x7d

/-- Whether the octet is one of the ten digits. -/
def isDigit (b : UInt8) : Bool := 0x30 ≤ b && b ≤ 0x39

/-- The value of a digit. -/
def digitValue (b : UInt8) : Nat := b.toNat - 0x30

/-- The octet of a digit below ten. -/
def ofDigit (n : Nat) : UInt8 := UInt8.ofNat (0x30 + n)

/-- The value of a hexadecimal digit in either case. -/
def hexValue? (b : UInt8) : Option Nat :=
  if isDigit b then some (digitValue b)
  else if 0x41 ≤ b && b ≤ 0x46 then some (b.toNat - 0x41 + 10)
  else if 0x61 ≤ b && b ≤ 0x66 then some (b.toNat - 0x61 + 10)
  else none

/-- The lower-case hexadecimal digit of a value below sixteen. -/
def ofHexDigit (n : Nat) : UInt8 :=
  if n < 10 then UInt8.ofNat (0x30 + n) else UInt8.ofNat (0x61 + (n - 10))

end Octet

end AgentState
