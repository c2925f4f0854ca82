/-
AgentState.Json.Form — values as documents.

* `Writable` — values that have a document, `Readable` — values that can
  be read from one.
* Instances for texts, truth values, fixed-width numbers, lists, optional
  values (`null` when absent), maps, points of time and spans.
* `Value.record?` — a record, from an object or from an array.
* `Value.choice?` — the name of a choice without contents: a string, or an
  object with that one member and `null` in it.
-/
import AgentState.Record
import AgentState.TextMap
import AgentState.Text.Timestamp
import AgentState.Json.Quoted
import AgentState.Json.Reader
import AgentState.Json.Printer

namespace AgentState.Json

/-- Values that have a document. -/
class Writable (α : Type) where
  write : α → Value

/-- Values that can be read from a document. -/
class Readable (α : Type) where
  read? : Value → Option α

export Writable (write)
export Readable (read?)

/-- The document of a text. -/
def textValue (s : String) : Value := .string (Quoted.ofText s)

/-- The document of an object with text keys. -/
def objectValue (members : List (String × Value)) : Value :=
  .object (members.map (fun m => (Quoted.ofText m.1, m.2)))

/-- The spelling of an integer. -/
def integerLexeme (n : Int) : Octets :=
  if n < 0 then Octet.minus :: Decimal.octets (Decimal.digits n.natAbs)
  else Decimal.octets (Decimal.digits n.natAbs)

namespace Value

/-- The text of a string. -/
def text? : Value → Option String
  | .string raw => Quoted.text? raw
  | _ => none

/-- The integer of a number. -/
def integer? : Value → Option Int
  | .number lexeme => (Numeral.read? lexeme).bind Numeral.integer?
  | _ => none

/-- The integer of a number, inside bounds. -/
def integerWithin? (low high : Int) (v : Value) : Option Int :=
  v.integer?.bind (fun n => if low ≤ n ∧ n ≤ high then some n else none)

/-- The float of a number. -/
def real? : Value → Option Float
  | .number lexeme => (Numeral.read? lexeme).bind Numeral.real?
  | _ => none

/-- The members of an object, when every key is a text. -/
def members? : Value → Option (List (String × Value))
  | .object ms => ms.mapM (fun m => (Quoted.text? m.1).map (fun k => (k, m.2)))
  | _ => none

/-- A record with the given fields.  An array may leave out fields at its
end but has no more than the record. -/
def record? (names : List String) : Value → Option (Record Value)
  | .object ms => (members? (.object ms)).bind (Record.ofNamed? names)
  | .array vs => if vs.length ≤ names.length then some (Record.ofListed names vs) else none
  | _ => none

/-- The name of a choice without contents. -/
def choice? : Value → Option String
  | .string raw => Quoted.text? raw
  | .object [(k, .null)] => Quoted.text? k
  | _ => none

end Value

/-! ## Instances -/

instance : Writable String := ⟨textValue⟩
instance : Readable String := ⟨Value.text?⟩

instance : Writable Bool := ⟨.bool⟩
instance : Readable Bool where
  read?
    | .bool b => some b
    | _ => none

instance : Writable UInt64 := ⟨fun n => .number (integerLexeme n.toNat)⟩
instance : Readable UInt64 where
  read? v := (v.integerWithin? 0 18446744073709551615).map (fun n => UInt64.ofNat n.toNat)

instance : Writable UInt32 := ⟨fun n => .number (integerLexeme n.toNat)⟩
instance : Readable UInt32 where
  read? v := (v.integerWithin? 0 4294967295).map (fun n => UInt32.ofNat n.toNat)

instance : Writable Int32 := ⟨fun n => .number (integerLexeme n.toInt)⟩
instance : Readable Int32 where
  read? v := (v.integerWithin? (-2147483648) 2147483647).map Int32.ofInt

instance : Readable Float := ⟨Value.real?⟩

instance {α : Type} [Writable α] : Writable (Option α) where
  write
    | some a => write a
    | none => .null
instance {α : Type} [Readable α] : Readable (Option α) where
  read?
    | .null => some none
    | v => (read? v).map some

instance {α : Type} [Writable α] : Writable (List α) := ⟨fun xs => .array (xs.map write)⟩
instance {α : Type} [Readable α] : Readable (List α) where
  read?
    | .array vs => vs.mapM read?
    | _ => none

instance : Writable TextMap :=
  ⟨fun m => objectValue (m.entries.map (fun e => (e.1, textValue e.2)))⟩
instance : Readable TextMap where
  read? v := do
    let members ← v.members?
    let entries ← members.mapM (fun m => m.2.text?.map (fun t => (m.1, t)))
    some (TextMap.ofList entries)

instance : Writable WallTime := ⟨fun t => textValue (Timestamp.write t)⟩
instance : Readable WallTime := ⟨fun v => v.text?.bind Timestamp.read?⟩

/-- A span is a record of seconds and nanoseconds and has no other
fields. -/
instance : Writable Span where
  write s := objectValue [("secs", write s.seconds), ("nanos", write (UInt32.ofNat s.nanos))]
instance : Readable Span where
  read? v := do
    let r ← v.record? ["secs", "nanos"]
    let known := match v.members? with
      | some ms => ms.all (fun m => m.1 == "secs" || m.1 == "nanos")
      | none => true
    let seconds : UInt64 ← r.required? read? "secs"
    let nanos : UInt32 ← r.required? read? "nanos"
    if known then Span.ofParts? seconds nanos.toNat else none

end AgentState.Json
