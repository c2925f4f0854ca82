/-
AgentState.Proofs.Json.Form — values are read back from their documents.

* `Lossless` — kinds of values whose documents are spelled well and read
  back as the values they were made of; `Carrying` — kinds that hold points
  of time, which are read back carried over; `Solid` — kinds of which no
  value is written as `null`.
* Instances for texts, truth values, fixed-width numbers, points of time,
  lists, maps, and optional values of solid kinds.
* `record?_objectValue` — an object whose keys differ is a record of its
  members, whatever the names that are asked for.
* `bind_required?`, `bind_optional?`, `bind_orElse?` — a member that was written
  from a value is read as what is carried of that value.
-/
import AgentState.Json.Form
import AgentState.Proofs.Entries
import AgentState.Proofs.Json.Builder
import AgentState.Proofs.Text.Timestamp

namespace AgentState.Json

/-- Kinds of values that are read back from their documents. -/
class Lossless (α : Type) [Writable α] [Readable α] : Prop where
  spelled : ∀ a : α, (write a).Spelled
  read?_write : ∀ a : α, read? (write a) = some a

/-- Kinds of values that are read back from their documents with all points of
time carried over; `carried` is what that makes of a value. -/
class Carrying (α : Type) [Writable α] [Readable α] where
  carried : α → α
  spelled : ∀ a : α, (write a).Spelled
  read?_write : ∀ a : α, read? (write a) = some (carried a)

/-- Where there are no points of time nothing is carried over. -/
instance {α : Type} [Writable α] [Readable α] [Lossless α] : Carrying α where
  carried a := a
  spelled := Lossless.spelled
  read?_write := Lossless.read?_write

@[simp] theorem carried_of_lossless {α : Type} [Writable α] [Readable α] [Lossless α] (a : α) :
    Carrying.carried a = a := rfl

/-- Kinds of values that are never written as `null`. -/
class Solid (α : Type) [Writable α] : Prop where
  write_ne_null : ∀ a : α, write a ≠ .null

/-! ## Texts and numbers -/

theorem inside_ofText (s : String) : Scanner.Inside (Quoted.ofText s) :=
  Scanner.inside_escape _

theorem spelled_textValue (s : String) : (textValue s).Spelled :=
  .string (inside_ofText s)

@[simp] theorem text?_textValue (s : String) : (textValue s).text? = some s := by
  simp [textValue, Value.text?]

/-- No octet of an integer ends a word. -/
theorem spelled_integerLexeme (n : Int) : Numeral.Spelled (integerLexeme n) := by
  have hdigits : ∀ b ∈ Decimal.octets (Decimal.digits n.natAbs), Scanner.endsWord b = false := by
    intro b hb
    obtain ⟨d, hd, rfl⟩ := List.mem_map.1 hb
    have all : ∀ d < 10, Scanner.endsWord (Octet.ofDigit d) = false := by decide
    exact all d (Decimal.digits_lt _ d hd)
  constructor
  · rw [Numeral.read?_integerLexeme]
    rfl
  · intro b hb
    unfold integerLexeme at hb
    split at hb
    · rcases List.mem_cons.1 hb with rfl | hb
      · rfl
      · exact hdigits b hb
    · exact hdigits b hb

theorem integerWithin?_integerLexeme {low high n : Int} (hlow : low ≤ n) (hhigh : n ≤ high) :
    Value.integerWithin? low high (.number (integerLexeme n)) = some n := by
  rw [Value.integerWithin?, Value.integer?, Numeral.integer?_integerLexeme]
  simp [hlow, hhigh]

instance : Lossless String := ⟨spelled_textValue, text?_textValue⟩
instance : Solid String := ⟨fun _ => by simp [write, textValue]⟩

instance : Lossless Bool := ⟨.bool, fun _ => rfl⟩
instance : Solid Bool := ⟨fun _ => by simp [write]⟩

instance : Lossless UInt64 where
  spelled n := .number (spelled_integerLexeme n.toNat)
  read?_write n := by
    have hn := n.toNat_lt
    have hread : Value.integerWithin? 0 18446744073709551615 (write n) = some (n.toNat : Int) :=
      integerWithin?_integerLexeme (by omega) (by omega)
    simp [read?, hread]
instance : Solid UInt64 := ⟨fun _ => by simp [write]⟩

instance : Lossless UInt32 where
  spelled n := .number (spelled_integerLexeme n.toNat)
  read?_write n := by
    have hn := n.toNat_lt
    have hread : Value.integerWithin? 0 4294967295 (write n) = some (n.toNat : Int) :=
      integerWithin?_integerLexeme (by omega) (by omega)
    simp [read?, hread]
instance : Solid UInt32 := ⟨fun _ => by simp [write]⟩

instance : Lossless Int32 where
  spelled n := .number (spelled_integerLexeme n.toInt)
  read?_write n := by
    have hlow := n.le_toInt
    have hhigh := n.toInt_lt
    have hread : Value.integerWithin? (-2147483648) 2147483647 (write n) = some n.toInt :=
      integerWithin?_integerLexeme (by omega) (by omega)
    simp [read?, hread]
instance : Solid Int32 := ⟨fun _ => by simp [write]⟩

instance : Carrying WallTime where
  carried := WallTime.carried
  spelled t := spelled_textValue (Timestamp.write t)
  read?_write t := by
    simp [read?, write, Timestamp.read?_write]
instance : Solid WallTime := ⟨fun _ => by simp [write, textValue]⟩

/-! ## Optional values and lists -/

/-- Where a value is, an optional one is read as that value. -/
theorem read?_option {α : Type} [Readable α] {v : Value} (h : v ≠ .null) :
    (read? v : Option (Option α)) = (read? v : Option α).map some := by
  cases v <;> first | exact absurd rfl h | rfl

section

variable {α : Type} [Writable α]

theorem spelled_option (spelled : ∀ a : α, (write a).Spelled) :
    ∀ o : Option α, (write o).Spelled
  | none => .null
  | some a => spelled a

theorem spelled_list (spelled : ∀ a : α, (write a).Spelled) (as : List α) :
    (write as).Spelled := by
  apply Value.Spelled.array
  intro v hv
  obtain ⟨a, _, rfl⟩ := List.mem_map.1 hv
  exact spelled a

variable [Readable α] {f : α → α}

/-- An optional value is read back as its value is. -/
theorem read?_write_option [Solid α] (reads : ∀ a : α, read? (write a) = some (f a)) :
    ∀ o : Option α, read? (write o) = some (o.map f)
  | none => rfl
  | some a => by
      have hread := read?_option (α := α) (Solid.write_ne_null a)
      rw [reads a] at hread
      exact hread

/-- A list is read back as its elements are. -/
theorem read?_write_list (reads : ∀ a : α, read? (write a) = some (f a)) (as : List α) :
    read? (write as) = some (as.map f) := by
  show (as.map write).mapM read? = some (as.map f)
  induction as with
  | nil => rfl
  | cons a as ih => simp [reads, ih]

instance [Lossless α] [Solid α] : Lossless (Option α) where
  spelled := spelled_option Lossless.spelled
  read?_write o := by
    rw [read?_write_option (f := id) Lossless.read?_write, Option.map_id, id]

instance [Lossless α] : Lossless (List α) where
  spelled := spelled_list Lossless.spelled
  read?_write as := by
    rw [read?_write_list (f := id) Lossless.read?_write, List.map_id]
instance : Solid (List α) := ⟨fun _ => by simp [write]⟩

-- only where there are points of time: what is lossless is so as a whole
instance (priority := low) [Carrying α] [Solid α] : Carrying (Option α) where
  carried o := o.map Carrying.carried
  spelled := spelled_option Carrying.spelled
  read?_write := read?_write_option Carrying.read?_write

instance (priority := low) [Carrying α] : Carrying (List α) where
  carried as := as.map Carrying.carried
  spelled := spelled_list Carrying.spelled
  read?_write := read?_write_list Carrying.read?_write

end

/-! ## Objects -/

theorem spelled_objectValue {members : List (String × Value)} (h : ∀ m ∈ members, m.2.Spelled) :
    (objectValue members).Spelled := by
  apply Value.Spelled.object
  · intro m hm
    obtain ⟨n, _, rfl⟩ := List.mem_map.1 hm
    exact inside_ofText n.1
  · intro m hm
    obtain ⟨n, hn, rfl⟩ := List.mem_map.1 hm
    exact h n hn

@[simp] theorem members?_objectValue (members : List (String × Value)) :
    (objectValue members).members? = some members := by
  unfold objectValue Value.members?
  induction members with
  | nil => rfl
  | cons m members ih => simp_all

/-- An object whose keys differ is the record of its members. -/
theorem record?_objectValue {members : List (String × Value)}
    (h : (members.map Prod.fst).Nodup) (names : List String) :
    (objectValue members).record? names = some ⟨true, fun n => members.lookup n⟩ := by
  have hmembers := members?_objectValue members
  unfold objectValue at hmembers ⊢
  rw [Value.record?, hmembers]
  exact Record.ofNamed?_of_nodup h names

/-! ## Fields -/

section Fields

variable {α β : Type} [Writable α] [Readable α] {members : List (String × Value)}

/-- A member that was written from a value is read as what is carried of it. -/
theorem bind_required? [Carrying α] (nodup : (members.map Prod.fst).Nodup) (name : String) (a : α)
    (here : (name, write a) ∈ members) {f : α → Option β} {r : Option β}
    (rest : f (Carrying.carried a) = r) :
    (Record.required? ⟨true, fun n => members.lookup n⟩ read? name >>= f) = r := by
  rw [Record.required?_of_mem nodup here]
  exact bind_of_some (Carrying.read?_write a) rest

/-- The same where the value may be absent. -/
theorem bind_optional? [Carrying (Option α)] (nodup : (members.map Prod.fst).Nodup)
    (name : String) (a : Option α) (here : (name, write a) ∈ members)
    {f : Option α → Option β} {r : Option β} (rest : f (Carrying.carried a) = r) :
    (Record.optional? ⟨true, fun n => members.lookup n⟩ read? name >>= f) = r := by
  rw [Record.optional?_of_mem nodup here]
  exact bind_of_some (Carrying.read?_write a) rest

/-- The same where there is another value for a member that is left out. -/
theorem bind_orElse? [Carrying α] (nodup : (members.map Prod.fst).Nodup) (name : String) (a : α)
    (here : (name, write a) ∈ members) {other : α} {f : α → Option β} {r : Option β}
    (rest : f (Carrying.carried a) = r) :
    (Record.orElse? ⟨true, fun n => members.lookup n⟩ read? name other >>= f) = r := by
  rw [Record.orElse?_of_mem nodup here]
  exact bind_of_some (Carrying.read?_write a) rest

end Fields

/-! ## Maps -/

theorem mapM_text?_textValue (es : List (String × String)) :
    (es.map (fun e => (e.1, textValue e.2))).mapM (fun m => m.2.text?.map (fun t => (m.1, t))) =
      some es := by
  induction es with
  | nil => rfl
  | cons e es ih => simp_all

instance : Lossless TextMap where
  spelled m := by
    apply spelled_objectValue
    intro n hn
    obtain ⟨e, _, rfl⟩ := List.mem_map.1 hn
    exact spelled_textValue e.2
  read?_write m := by
    have htexts := mapM_text?_textValue m.entries
    simp [read?, write, htexts]
instance : Solid TextMap := ⟨fun _ => by simp [write, objectValue]⟩

end AgentState.Json
