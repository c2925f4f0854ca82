/-
AgentState.Proofs.Wire.Sparse — records of which a document gives a part.

A document of a record may leave members out, give the others in any order
and hold members of its own.  What is left out is as a blank record has it,
what is given is as it was sent, points of time as their texts name them, and
what is strange is skipped.

* `Json.Value.Extends` — an object with some members among strange ones.
* `Json.Value.Extends.record?` — the record of such an object has the members
  that are given.
* `WireTransition.keeping`, `WireSnapshot.keeping` — a record of which some
  members count, and what the others are.
* `WireTransition.read?_extends`, `WireSnapshot.read?_extends` — that record
  is what is read.
* `Encoding.decode_sparse` — the statement about texts.
-/
import AgentState.Proofs.Wire.Codec
import AgentState.Proofs.Json.Spelling
import AgentState.Text.Serial

namespace AgentState

open Json

/-! ## Members among others -/

/-- An object with some members, in any order, among strange ones: members
that hold anything under names that a record does not have. -/
structure Json.Value.Extends (names : List String) (kept : List (String × Value)) (v : Value) :
    Prop where
  spelled : v.Spelled
  members : ∃ fields strange, v.members? = some fields ∧ fields.Perm (kept ++ strange) ∧
    ∀ m ∈ strange, m.1 ∉ names

/-- The record of such an object has the members that are given, whichever
of the names are asked for. -/
theorem Json.Value.Extends.record? {names asked : List String} {kept : List (String × Value)}
    {v : Value} (doc : v.Extends names kept) (own : (kept.map Prod.fst).Nodup)
    (asks : asked ⊆ names) :
    ∃ find, v.record? asked = some ⟨true, find⟩ ∧ ∀ n ∈ names, find n = kept.lookup n := by
  obtain ⟨fields, strange, found, perm, unknown⟩ := doc.members
  have skipped : ∀ n ∈ names, strange.filter (fun f => f.1 == n) = [] := by
    intro n known
    refine List.filter_eq_nil_iff.2 fun m mem same => unknown m mem ?_
    rw [beq_iff_eq.1 same]
    exact known
  have once : ∀ n ∈ names, ((kept ++ strange).filter (fun f => f.1 == n)).length ≤ 1 := by
    intro n known
    rw [List.filter_append, skipped n known, List.append_nil]
    exact length_filter_key_le own n
  refine ⟨fun n => fields.lookup n, ?_, fun n known => ?_⟩
  · have named : Record.ofNamed? asked fields = some ⟨true, fun n => fields.lookup n⟩ := by
      refine Record.ofNamed?_of_once fun n mem => ?_
      rw [(perm.filter _).length_eq]
      exact once n (asks mem)
    cases v with
    | object members =>
      rw [Value.record?, found]
      exact named
    | _ => cases found
  · show fields.lookup n = kept.lookup n
    rw [lookup_of_perm perm (once n known), lookup_eq_head?, lookup_eq_head?, List.filter_append,
      skipped n known, List.append_nil]

/-- A field of a record is as it was sent, or as it is when it is left
out. -/
theorem orElse?_given {α : Type} [Readable α] {members : List (String × Value)}
    (own : (members.map Prod.fst).Nodup) {name : String} {v : Value} {a : α}
    (mem : (name, v) ∈ members) (reads : read? v = some a) {given : String → Bool}
    {find : String → Option Value}
    (found : find name = (members.filter (fun m => given m.1)).lookup name) (other : α) :
    Record.orElse? ⟨true, find⟩ read? name other = some (if given name then a else other) := by
  have whole := (lookup_eq_some_iff_mem own).2 mem
  rw [lookup_filter_key, whole] at found
  cases h : given name with
  | true =>
    rw [h, if_pos rfl] at found
    simp [Record.orElse?, found, reads]
  | false =>
    rw [h, if_neg Bool.false_ne_true] at found
    simp [Record.orElse?, found]

/-! ## Steps -/

namespace WireTransition

/-- A step of which some members count.  The others are as in a step that
says nothing. -/
def keeping (w : WireTransition) (given : String → Bool) : WireTransition where
  source := if given "from_state" then w.source else 0
  target := if given "to_state" then w.target else 0
  trigger := if given "trigger" then w.trigger else ""
  status := if given "status" then w.status else 0
  errorMessage := if given "error_message" then w.errorMessage else ""
  monotonic := if given "monotonic_ns" then w.monotonic else 0
  wall := if given "wall_time" then w.wall else .epoch

/-- The members of a step that are given. -/
def kept (w : WireTransition) (given : String → Bool) : List (String × Value) :=
  w.members.filter (fun m => given m.1)

/-- What is left of a step is carried over as the step is. -/
theorem keeping_carried (w : WireTransition) (given : String → Bool) :
    w.carried.keeping given = (w.keeping given).carried := by
  simp only [keeping, carried, apply_ite WallTime.carried, WallTime.carried_epoch]

/-- What is read of a step of which a document gives a part. -/
theorem read?_extends {w : WireTransition} {given : String → Bool} {v : Value}
    (doc : v.Extends names (w.kept given)) : read? v = some (w.keeping given).carried := by
  have own : ((w.kept given).map Prod.fst).Nodup :=
    (w.nodup_members).sublist (List.filter_sublist.map Prod.fst)
  obtain ⟨find, record, found⟩ := doc.record? own (List.Subset.refl names)
  have field {α : Type} [Writable α] [Readable α] [Carrying α] (name : String) (a other : α)
      (known : name ∈ names) (mem : (name, write a) ∈ w.members) :
      Record.orElse? ⟨true, find⟩ read? name other =
        some (if given name then Carrying.carried a else other) :=
    orElse?_given w.nodup_members mem (Carrying.read?_write a) (found name known) other
  rw [← keeping_carried]
  show (Value.record? names v >>= _) = some (w.carried.keeping given)
  refine bind_of_some record ?_
  refine bind_of_some (field "from_state" w.source _ (by decide) (by simp [members])) ?_
  refine bind_of_some (field "to_state" w.target _ (by decide) (by simp [members])) ?_
  refine bind_of_some (field "trigger" w.trigger _ (by decide) (by simp [members])) ?_
  refine bind_of_some (field "status" w.status _ (by decide) (by simp [members])) ?_
  refine bind_of_some (field "error_message" w.errorMessage _ (by decide) (by simp [members])) ?_
  refine bind_of_some (field "monotonic_ns" w.monotonic _ (by decide) (by simp [members])) ?_
  refine bind_of_some (field "wall_time" w.wall _ (by decide) (by simp [members])) ?_
  rfl

end WireTransition

/-! ## Snapshots -/

namespace WireSnapshot

/-- A snapshot of which some members count.  The others are as in a snapshot
that says nothing. -/
def keeping (w : WireSnapshot) (given : String → Bool) : WireSnapshot where
  format := if given "format_version" then w.format else 1
  version := if given "version" then w.version else 0
  state := if given "state" then w.state else 0
  prevState := if given "prev_state" then w.prevState else none
  reason := if given "reason" then w.reason else ""
  monotonic := if given "monotonic_ns" then w.monotonic else 0
  wall := if given "wall_time" then w.wall else .epoch
  id := if given "snapshot_id" then w.id else none
  parentId := if given "parent_snapshot_id" then w.parentId else none
  instanceId := if given "instance_id" then w.instanceId else none
  sourceModule := if given "source_module" then w.sourceModule else none
  attempts := if given "attempt_count" then w.attempts else 0
  history := if given "history" then w.history else []
  context := if given "context_data" then w.context else .empty
  metadata := if given "state_metadata" then w.metadata else .empty

/-- The members of a snapshot with a history in a form of its own. -/
def membersWith (w : WireSnapshot) (history : Value) : List (String × Value) :=
  [("format_version", write w.format), ("version", write w.version), ("state", write w.state),
   ("prev_state", write w.prevState), ("reason", write w.reason),
   ("monotonic_ns", write w.monotonic), ("wall_time", write w.wall), ("snapshot_id", write w.id),
   ("parent_snapshot_id", write w.parentId), ("instance_id", write w.instanceId),
   ("source_module", write w.sourceModule), ("attempt_count", write w.attempts),
   ("history", history), ("context_data", write w.context), ("state_metadata", write w.metadata)]

theorem nodup_membersWith (w : WireSnapshot) (history : Value) :
    ((w.membersWith history).map Prod.fst).Nodup := nodup_names

/-- The members of a snapshot that are given. -/
def kept (w : WireSnapshot) (given : String → Bool) (history : Value) : List (String × Value) :=
  (w.membersWith history).filter (fun m => given m.1)

theorem nodup_kept (w : WireSnapshot) (given : String → Bool) (history : Value) :
    ((w.kept given history).map Prod.fst).Nodup :=
  (w.nodup_membersWith history).sublist (List.filter_sublist.map Prod.fst)

/-- What is left of a snapshot is carried over as the snapshot is. -/
theorem keeping_carried (w : WireSnapshot) (given : String → Bool) :
    w.carried.keeping given = (w.keeping given).carried := by
  simp only [keeping, carried, apply_ite WallTime.carried, apply_ite (List.map _),
    WallTime.carried_epoch, List.map_nil]

/-- What is read of a snapshot of which a document gives a part.  The history
may be given in any form in which it is read. -/
theorem read?_extends {w : WireSnapshot} {given : String → Bool} {history v : Value}
    (reads : read? history = some w.carried.history)
    (doc : v.Extends names (w.kept given history)) :
    read? v = some (w.keeping given).carried := by
  have own := w.nodup_membersWith history
  obtain ⟨find, record, found⟩ := doc.record? (w.nodup_kept given history) (List.Subset.refl names)
  have field {α : Type} [Writable α] [Readable α] [Carrying α] (name : String) (a other : α)
      (known : name ∈ names) (mem : (name, write a) ∈ w.membersWith history) :
      Record.orElse? ⟨true, find⟩ read? name other =
        some (if given name then Carrying.carried a else other) :=
    orElse?_given own mem (Carrying.read?_write a) (found name known) other
  have past (other : List WireTransition) : Record.orElse? ⟨true, find⟩ read? "history" other =
      some (if given "history" then w.carried.history else other) :=
    orElse?_given own (by simp [membersWith]) reads (found "history" (by decide)) other
  rw [← keeping_carried]
  show (Value.record? names v >>= _) = some (w.carried.keeping given)
  refine bind_of_some record ?_
  refine bind_of_some (field "format_version" w.format _ (by decide) (by simp [membersWith])) ?_
  refine bind_of_some (field "version" w.version _ (by decide) (by simp [membersWith])) ?_
  refine bind_of_some (field "state" w.state _ (by decide) (by simp [membersWith])) ?_
  refine bind_of_some (field "prev_state" w.prevState _ (by decide) (by simp [membersWith])) ?_
  refine bind_of_some (field "reason" w.reason _ (by decide) (by simp [membersWith])) ?_
  refine bind_of_some (field "monotonic_ns" w.monotonic _ (by decide) (by simp [membersWith])) ?_
  refine bind_of_some (field "wall_time" w.wall _ (by decide) (by simp [membersWith])) ?_
  refine bind_of_some (field "snapshot_id" w.id _ (by decide) (by simp [membersWith])) ?_
  refine bind_of_some (field "parent_snapshot_id" w.parentId _ (by decide)
    (by simp [membersWith])) ?_
  refine bind_of_some (field "instance_id" w.instanceId _ (by decide) (by simp [membersWith])) ?_
  refine bind_of_some (field "source_module" w.sourceModule _ (by decide)
    (by simp [membersWith])) ?_
  refine bind_of_some (field "attempt_count" w.attempts _ (by decide) (by simp [membersWith])) ?_
  refine bind_of_some (past _) ?_
  refine bind_of_some (field "context_data" w.context _ (by decide) (by simp [membersWith])) ?_
  refine bind_of_some (field "state_metadata" w.metadata _ (by decide) (by simp [membersWith])) ?_
  rfl

/-- The identity of what is left: as it was sent where it is given and was
there, else new. -/
theorem identity_keeping (w : WireSnapshot) (given : String → Bool) (ids : FreshIds) :
    ((w.keeping given).toSnapshot ids).id =
        (if given "snapshot_id" then w.id else none).getD ids.snapshot ∧
      ((w.keeping given).toSnapshot ids).instanceId =
        (if given "instance_id" then w.instanceId else none).getD ids.instanceId ∧
      ((w.keeping given).toSnapshot ids).sourceModule =
        (if given "source_module" then w.sourceModule else none).getD "fsm_handler" :=
  ⟨rfl, rfl, rfl⟩

/-- The format alone, of the same document. -/
theorem formatOf?_extends {w : WireSnapshot} {given : String → Bool} {history v : Value}
    (doc : v.Extends names (w.kept given history)) :
    formatOf? v = some (w.keeping given).format := by
  obtain ⟨find, record, found⟩ :=
    doc.record? (w.nodup_kept given history) (show ["format_version"] ⊆ names by decide)
  refine bind_of_some record ?_
  exact orElse?_given (w.nodup_membersWith history) (by simp [membersWith])
    (Lossless.read?_write w.format) (found "format_version" (by decide)) formatVersion

end WireSnapshot

/-! ## Histories -/

/-- Documents of the steps of a history, each of which gives a part of its
step. -/
abbrev Excerpts := List ((String → Bool) × Value)

namespace Excerpts

/-- The documents give parts of the steps, one after the other. -/
def Of (es : Excerpts) (steps : List WireTransition) : Prop :=
  List.Forall₂ (fun t e => e.2.Extends WireTransition.names (t.kept e.1)) steps es

/-- What is left of the steps. -/
def left (es : Excerpts) (steps : List WireTransition) : List WireTransition :=
  List.zipWith (fun t e => t.keeping e.1) steps es

/-- The documents in one. -/
def whole (es : Excerpts) : Value := .array (es.map Prod.snd)

theorem read?_whole {es : Excerpts} {steps : List WireTransition} (h : es.Of steps) :
    read? es.whole = some ((es.left steps).map WireTransition.carried) := by
  show (es.map Prod.snd).mapM read? = some ((es.left steps).map WireTransition.carried)
  induction h with
  | nil => rfl
  | @cons t e steps es first _ ih =>
    have reads := WireTransition.read?_extends first
    simp [left, reads, ih]

end Excerpts

/-! ## Texts -/

/-- The identifiers that a supply gives next. -/
def Supply.freshIds (supply : Supply) : FreshIds := ⟨supply.id.1, supply.id.2.id.1⟩

/-- An identifier that a supply gives now is not one that it gave before. -/
theorem Supply.idAt_of_lt (supply : Supply) {m n : Nat} (before : m < n) :
    supply.idAt n ≠ supply.idAt m := by
  intro same
  have := supply.idAt_inj n m same
  omega

/-- A code of no state reads as `unspecified`. -/
theorem State.ofCode_of_unknown {code : Int32} (unknown : ∀ q : State, q.code ≠ code) :
    State.ofCode code = .unspecified := by
  have none : all.find? (fun q => q.code == code) = none := by
    simpa using fun q _ => unknown q
  rw [ofCode, none]
  rfl

/-- A code of no outcome reads as `unspecified`. -/
theorem Status.ofCode_of_unknown {code : Int32} (unknown : ∀ q : Status, q.code ≠ code) :
    Status.ofCode code = .unspecified := by
  have none : all.find? (fun q => q.code == code) = none := by
    simpa using fun q _ => unknown q
  rw [ofCode, none]
  rfl

namespace Encoding

/-- A text of which the format is read, not too new, and then a record. -/
theorem decode_of_reads {reader : Encoding} (text : reader ∈ texts) {bs : Octets} {v : Value}
    (spelled : v.Text bs) {format : UInt32} (first : WireSnapshot.formatOf? v = some format)
    (supported : format ≤ formatVersion) {w : WireSnapshot} (reads : read? v = some w)
    (ids : FreshIds) : reader.decode ids bs = .ok (w.toSnapshot ids) := by
  have whole := Value.read?_of_text spelled
  have old : ¬ formatVersion < format := UInt32.not_lt.2 supported
  have header : jsonReading.format? bs = some format := by simp [jsonReading, whole, first]
  have record : jsonReading.record? bs = some w := by simp [jsonReading, whole, reads]
  rw [decode, decodeRecord, reading_of_text text, header, record]
  simp [checkFormat, old, Except.map, bind, Except.bind]

/-- A text of an object with a name that is no text is refused. -/
theorem decode_of_nameless {reader : Encoding} (text : reader ∈ texts) {bs : Octets}
    {members : List (Octets × Value)} (spelled : (Value.object members).Text bs)
    (nameless : ∃ m ∈ members, Quoted.text? m.1 = none) (ids : FreshIds) :
    reader.decode ids bs = .error .malformed := by
  obtain ⟨m, mem, none⟩ := nameless
  have unnamed : (Value.object members).members? = Option.none := by
    rw [Value.members?]
    obtain ⟨before, after, rfl⟩ := List.append_of_mem mem
    rw [List.mapM_append]
    cases before.mapM fun m => (Quoted.text? m.1).map fun k => (k, m.2) <;> simp [none]
  have header : jsonReading.format? bs = Option.none := by
    simp [jsonReading, Value.read?_of_text spelled, WireSnapshot.formatOf?, Value.record?, unnamed]
  rw [decode, decodeRecord, reading_of_text text, header]
  rfl

/-- A record is read from any text of any document that gives a part of it:
in any order, with any members of other names, and likewise for each step of
its history.  What is left out is as in a record that says nothing, the
identifiers are new, and what is given is as it was sent; a code of no state
or outcome is unspecified.  The times are those that their texts name: all are
as they were sent exactly if every leap second among them ends a minute. -/
theorem decode_sparse {reader : Encoding} (text : reader ∈ texts) (supply : Supply)
    {w : WireSnapshot} (supported : w.format ≤ 1) {given : String → Bool} {es : Excerpts}
    (steps : es.Of w.history) {v : Value}
    (doc : v.Extends WireSnapshot.names (w.kept given es.whole)) {bs : Octets}
    (spelled : v.Text bs) :
    let s := ({ w with history := es.left w.history }.keeping given).toSnapshot supply.freshIds
    reader.decode supply.freshIds bs = .ok s.carried ∧
      (s.carried = s ↔ ∀ t ∈ s.walls, t.IsRegular) ∧
      (given "snapshot_id" = false ∨ w.id = none →
        s.id ≠ "" ∧ ∀ n < supply.ids, s.id ≠ supply.idAt n) ∧
      (given "instance_id" = false ∨ w.instanceId = none →
        s.instanceId ≠ "" ∧ ∀ n < supply.ids, s.instanceId ≠ supply.idAt n) ∧
      (given "source_module" = false ∨ w.sourceModule = none → s.sourceModule = "fsm_handler") ∧
      (given "snapshot_id" = true → ∀ id, w.id = some id → s.id = id) ∧
      (given "instance_id" = true → ∀ id, w.instanceId = some id → s.instanceId = id) ∧
      (given "source_module" = true → ∀ name, w.sourceModule = some name → s.sourceModule = name) ∧
      (∀ code, (∀ q : State, q.code ≠ code) → State.ofCode code = .unspecified) ∧
      ∀ code, (∀ q : Status, q.code ≠ code) → Status.ofCode code = .unspecified := by
  intro s
  have doc' : v.Extends WireSnapshot.names
      ({ w with history := es.left w.history }.kept given es.whole) := doc
  have reads := WireSnapshot.read?_extends (Excerpts.read?_whole steps) doc'
  have old : ({ w with history := es.left w.history }.keeping given).format ≤ formatVersion := by
    show (if given "format_version" then w.format else 1) ≤ formatVersion
    split
    · exact supported
    · decide
  have new (n : Nat) (later : supply.ids ≤ n) :
      supply.idAt n ≠ "" ∧ ∀ m < supply.ids, supply.idAt n ≠ supply.idAt m :=
    ⟨supply.idAt_ne n, fun m before => supply.idAt_of_lt (Nat.lt_of_lt_of_le before later)⟩
  obtain ⟨id, instanceId, source⟩ := WireSnapshot.identity_keeping
    { w with history := es.left w.history } given supply.freshIds
  have decoded := decode_of_reads text spelled (WireSnapshot.formatOf?_extends doc') old reads
    supply.freshIds
  rw [WireSnapshot.toSnapshot_carried] at decoded
  refine ⟨decoded, Snapshot.carried_eq_self_iff, ?_, ?_, ?_, ?_, ?_, ?_,
    fun _ => State.ofCode_of_unknown, fun _ => Status.ofCode_of_unknown⟩
  · intro absent
    have drawn : s.id = supply.idAt supply.ids :=
      id.trans (by rcases absent with h | h <;> simp [h, Supply.freshIds, Supply.id])
    exact drawn ▸ new supply.ids (Nat.le_refl _)
  · intro absent
    have drawn : s.instanceId = supply.idAt (supply.ids + 1) :=
      instanceId.trans (by rcases absent with h | h <;> simp [h, Supply.freshIds, Supply.id])
    exact drawn ▸ new (supply.ids + 1) (Nat.le_succ _)
  · intro absent
    exact source.trans (by rcases absent with h | h <;> simp [h])
  · intro present sent there
    exact id.trans (by simp [present, there])
  · intro present sent there
    exact instanceId.trans (by simp [present, there])
  · intro present sent there
    exact source.trans (by simp [present, there])

/-! ### Two texts -/

/-- A state and an outcome of which nobody here knows, behind a member that
holds no text. -/
def sparse : Value :=
  objectValue [("x", .string (octetsOf "\\ud800")),
    ("history", .array [objectValue [("status", write (7 : Int32))]]),
    ("state", write (99 : Int32))]

def sparseText : Octets :=
  octetsOf "\x7b \"x\" : \"\\ud800\", \"history\":[\x7b\"status\":7\x7d],\n\"state\":99\x7d"

theorem text_sparse : sparse.Text sparseText := by
  have seven : write (7 : Int32) = Value.number (octetsOf "7") :=
    congrArg Value.number (by decide +kernel)
  have ninetyNine : write (99 : Int32) = Value.number (octetsOf "99") :=
    congrArg Value.number (by decide +kernel)
  refine Value.read?_eq_some_iff.1 ?_
  rw [sparse, seven, ninetyNine]
  rfl

/-- The sparse text is read: what is not known is unspecified, and the
identifier that is left out is new. -/
theorem decode_sparse_unknown :
    let supply := Supply.numbered "s" fun _ => ⟨1, .epoch⟩
    let step : WireTransition := { WireTransition.blank with source := 2, status := 7 }
    let w : WireSnapshot :=
      { WireSnapshot.blank with state := 99, history := [step], id := some "lost" }
    let given : String → Bool := fun n => n == "history" || n == "state"
    let es : Excerpts := [(fun n => n == "status", objectValue [("status", write (7 : Int32))])]
    w.format ≤ 1 ∧ es.Of w.history ∧ sparse.Extends WireSnapshot.names (w.kept given es.whole) ∧
      sparse.Text sparseText ∧
      ∃ s, Encoding.pretty.decode supply.freshIds sparseText = .ok s ∧
        s.state = .unspecified ∧ s.id ≠ "" ∧ s.sourceModule = "fsm_handler" ∧
        s.history.transitions.map Transition.source = [.unspecified] ∧
        s.history.transitions.map Transition.status = [.unspecified] := by
  intro supply step w given es
  have steps : es.Of w.history := by
    refine .cons ⟨spelled_objectValue ?_, _, [], members?_objectValue _, .refl _, by simp⟩ .nil
    simpa using Lossless.spelled (7 : Int32)
  have doc : sparse.Extends WireSnapshot.names (w.kept given es.whole) := by
    refine ⟨text_sparse.spelled, _, [("x", .string (octetsOf "\\ud800"))],
      members?_objectValue _, ?_, ?_⟩
    · exact List.reverse_perm (w.kept given es.whole ++ [_])
    · decide
  obtain ⟨read, -, id, -, source, -⟩ :=
    decode_sparse (show Encoding.pretty ∈ texts by decide) supply (w := w) (by decide) steps doc
      text_sparse
  exact ⟨by decide, steps, doc, text_sparse, _, read, rfl, (id (.inl rfl)).1, source (.inl rfl),
    rfl, rfl⟩

/-- A document with an identity and a member whose name is half of a
surrogate pair. -/
def strange : List (Octets × Value) :=
  [(Quoted.ofText "snapshot_id", textValue "a"), (Quoted.ofText "instance_id", textValue "b"),
    (octetsOf "\\ud800", .number (octetsOf "1"))]

def strangeText : Octets :=
  octetsOf "\x7b\"snapshot_id\":\"a\",\"instance_id\":\"b\",\"\\ud800\":1\x7d"

theorem text_strange : (Value.object strange).Text strangeText := Value.read?_eq_some_iff.1 rfl

/-- A member is not skipped if its name is no text: a record that brings its
identity, followed by such a member, is refused. -/
theorem decode_strange :
    (Value.object strange).Text strangeText ∧
      strange = [("snapshot_id", textValue "a"), ("instance_id", textValue "b")].map
          (fun m => (Quoted.ofText m.1, m.2)) ++
        [(octetsOf "\\ud800", .number (octetsOf "1"))] ∧
      (∀ name ∈ WireSnapshot.names, Quoted.text? (octetsOf "\\ud800") ≠ some name) ∧
      ∀ ids, Encoding.json.decode ids strangeText = .error .malformed := by
  have none : Quoted.text? (octetsOf "\\ud800") = none := rfl
  refine ⟨text_strange, rfl, fun name _ => ?_, fun ids => ?_⟩
  · rw [none]
    exact Option.some_ne_none name |>.symm
  · have last : (octetsOf "\\ud800", .number (octetsOf "1")) ∈ strange := by simp [strange]
    exact decode_of_nameless (by decide) text_strange ⟨_, last, none⟩ ids

end Encoding

end AgentState
