/-
AgentState.Proofs.Document.Apart — documents of their own, and those that peers
exchange.

A value is read back from its document, in every layout, with leap seconds
inside a minute carried over.  A snapshot has
documents of two kinds, and the names of their members are much the same; but a
state is a text in the one and a number in the other, and no reader takes the
one for the other.

* `document`, `ofDocument?` — a value as octets, and octets as a value.
* `read?_write_apart` — a snapshot's own document is no wire record, and
  `WireSnapshot.read?_write_apart` — the document of a wire record is no snapshot.
* `documents_read_back` — the statement about all kinds of documents.
-/
import AgentState.Proofs.Document.Report
import AgentState.Proofs.Wire.Codec

namespace AgentState

open Json

namespace Json

/-- The document of a value as octets. -/
def document {α : Type} [Writable α] (lay : Layout) (a : α) : Octets := (write a).render lay

/-- Octets as a value: one document and nothing after it. -/
def ofDocument? {α : Type} [Readable α] (bs : Octets) : Option α := (Value.read? bs).bind read?

/-- What is read back of a value from its document. -/
theorem ofDocument?_document {α : Type} [Writable α] [Readable α] [Carrying α] {lay : Layout}
    (blank : lay.Blank) (a : α) : ofDocument? (document lay a) = some (Carrying.carried a) := by
  rw [ofDocument?, document, Value.read?_render blank (Carrying.spelled a), Option.bind_some,
    Carrying.read?_write]

end Json

/-! ## No document of the one kind is of the other -/

namespace Snapshot

theorem format_notMem_members (s : Snapshot) : "format_version" ∉ s.members.map Prod.fst :=
  show "format_version" ∉ names by decide

/-- A snapshot's own document is no wire record: its state is a text. -/
theorem read?_write_apart (s : Snapshot) : (read? (write s) : Option WireSnapshot) = none := by
  have nodup := s.nodup_members
  have state : ("state", write s.state) ∈ s.members := by simp [members]
  show (Value.record? WireSnapshot.names (objectValue s.members) >>= _) = none
  refine bind_of_some (record?_objectValue nodup _) ?_
  refine bind_of_some (Record.orElse?_of_notMem s.format_notMem_members read? _) ?_
  refine bind_orElse? nodup "version" s.version (by simp [members]) ?_
  rw [Record.orElse?_of_mem nodup state]
  rfl

/-- A snapshot's own document names no format. -/
theorem formatOf?_write (s : Snapshot) :
    WireSnapshot.formatOf? (write s) = some formatVersion := by
  show (Value.record? ["format_version"] (objectValue s.members) >>= _) = some formatVersion
  refine bind_of_some (record?_objectValue s.nodup_members _) ?_
  exact Record.orElse?_of_notMem s.format_notMem_members read? _

end Snapshot

/-- The document of a wire record is no snapshot: its state is a number. -/
theorem WireSnapshot.read?_write_apart (w : WireSnapshot) :
    (read? (write w) : Option Snapshot) = none := by
  have nodup := w.nodup_members
  have state : ("state", write w.state) ∈ w.members := by simp [members]
  show (Value.record? Snapshot.names (objectValue w.members) >>= _) = none
  refine bind_of_some (record?_objectValue nodup _) ?_
  refine bind_required? nodup "version" w.version (by simp [members]) ?_
  rw [Record.required?_of_mem nodup state]
  rfl

/-- Peers refuse a snapshot's own document as malformed. -/
theorem Encoding.decode_document {reader : Encoding} (text : reader ∈ texts) {lay : Layout}
    (blank : lay.Blank) (ids : FreshIds) (s : Snapshot) :
    reader.decode ids (document lay s) = .error .malformed := by
  have reads : Value.read? (document lay s) = some (write s) :=
    Value.read?_render blank (Carrying.spelled s)
  have format : jsonReading.format? (document lay s) = some formatVersion := by
    simp [jsonReading, reads, Snapshot.formatOf?_write]
  have record : jsonReading.record? (document lay s) = none := by
    simp [jsonReading, reads, Snapshot.read?_write_apart]
  rw [decode, decodeRecord, reading_of_text text, format, record]
  rfl

/-- What peers exchange is no document of a snapshot's own. -/
theorem Encoding.ofDocument?_encode {writer : Encoding} (text : writer ∈ texts) (s : Snapshot) :
    (ofDocument? (writer.encode s) : Option Snapshot) = none := by
  obtain ⟨lay, blank, rendered⟩ := encodeRecord_of_text text (.ofSnapshot s)
  rw [ofDocument?, encode, rendered, Value.read?_render blank (Carrying.spelled _),
    Option.bind_some, WireSnapshot.read?_write_apart]

/-! ## All kinds of documents -/

/-- What is read back of snapshots, histories, steps, metrics and health reports
from their documents, in every layout that puts nothing but white space between
tokens: the value carried over, so the value itself exactly if every leap second
in it ends a minute.  In a health report there are no times.  The entries of a
snapshot's maps may be written in any order: it is the order in which they are
read back, and what is found under each key is the same.  No text encoding takes
a snapshot's own document for one that peers exchange, and what a text encoding
writes is not read as a snapshot's own document. -/
theorem documents_read_back {lay : Layout} (blank : lay.Blank) :
    (∀ (s : Snapshot) (context metadata : TextMap), context.entries.Perm s.context.entries →
      metadata.entries.Perm s.metadata.entries →
      ofDocument? (document lay { s with context, metadata }) =
          some { s.carried with context, metadata } ∧
        ({ s.carried with context, metadata } = { s with context, metadata } ↔
          ∀ t ∈ s.walls, t.IsRegular) ∧
        (∀ k, context.get? k = s.context.get? k) ∧ ∀ k, metadata.get? k = s.metadata.get? k) ∧
    (∀ h : History, ofDocument? (document lay h) = some h.carried ∧
      (h.carried = h ↔ ∀ t ∈ h.walls, t.IsRegular)) ∧
    (∀ t : Transition, ofDocument? (document lay t) = some t.carried ∧
      (t.carried = t ↔ t.wall.IsRegular)) ∧
    (∀ r : HealthReport, ofDocument? (document lay r) = some r) ∧
    (∀ m : Metrics, ofDocument? (document lay m) = some m.carried ∧
      (m.carried = m ↔ ∀ t ∈ m.lastUpdateWall, t.IsRegular)) ∧
    (∀ (s : Snapshot) (ids : FreshIds), ∀ reader ∈ Encoding.texts,
      reader.decode ids (document lay s) = .error .malformed) ∧
    ∀ s : Snapshot, ∀ writer ∈ Encoding.texts,
      (ofDocument? (writer.encode s) : Option Snapshot) = none := by
  refine ⟨fun s context metadata hcontext hmetadata => ⟨?_, ?_, ?_, ?_⟩, ?_, ?_, ?_, ?_, ?_, ?_⟩
  · exact ofDocument?_document blank ({ s with context, metadata } : Snapshot)
  · exact Snapshot.carried_eq_self_iff (s := { s with context, metadata })
  · exact TextMap.get?_of_perm hcontext
  · exact TextMap.get?_of_perm hmetadata
  · exact fun h => ⟨ofDocument?_document blank h, History.carried_eq_self_iff⟩
  · exact fun t => ⟨ofDocument?_document blank t, Transition.carried_eq_self_iff⟩
  · intro r
    rw [ofDocument?_document blank r, carried_of_lossless]
  · exact fun m => ⟨ofDocument?_document blank m, Metrics.carried_eq_self_iff⟩
  · exact fun s ids reader text => Encoding.decode_document text blank ids s
  · exact fun s writer text => Encoding.ofDocument?_encode text s

/-- A leap second in the last year that can be written and a state that is left
behind, over several lines, with the two entries of the metadata in the other
order. -/
theorem documents_read_back_swapped :
    let leap : WallTime := ⟨8210266876799, 1999999999, by decide, by decide⟩
    let s : Snapshot :=
      { Snapshot.fresh ⟨"id", ⟨0, leap⟩⟩ "node" .error "\"" with
        prevState := some .idle
        metadata := ⟨[("", "1"), ("state", "3")], by decide⟩ }
    let swapped : TextMap := ⟨[("state", "3"), ("", "1")], by decide⟩
    Layout.pretty.Blank ∧ s.context.entries.Perm s.context.entries ∧
      swapped.entries.Perm s.metadata.entries ∧ (∀ t ∈ s.walls, t.IsRegular) ∧
      ofDocument? (document .pretty { s with metadata := swapped }) =
        some { s with metadata := swapped } ∧
      swapped.get? "state" = s.metadata.get? "state" ∧
      Encoding.json.decode ⟨"x", "y"⟩ (document .pretty s) = .error .malformed ∧
      (ofDocument? (Encoding.json.encode s) : Option Snapshot) = none := by
  intro leap s swapped
  have same : s.context.entries.Perm s.context.entries := .refl _
  have swap : swapped.entries.Perm s.metadata.entries := List.Perm.swap _ _ _
  have regular : ∀ t ∈ s.walls, t.IsRegular := by decide
  obtain ⟨snapshots, _, _, _, _, foreign, exchanged⟩ := documents_read_back Layout.blank_pretty
  obtain ⟨back, itself, _, metadata⟩ := snapshots s s.context swapped same swap
  exact ⟨Layout.blank_pretty, same, swap, regular, back.trans (congrArg some (itself.2 regular)),
    metadata "state", foreign s ⟨"x", "y"⟩ .json (by decide), exchanged s .json (by decide)⟩

/-- A step in a leap second inside a minute comes back from its document in the
second behind it. -/
theorem document_stray :
    let stray : WallTime := ⟨1704110404, 1500000000, by decide, by decide⟩
    let behind : WallTime := ⟨1704110405, 500000000, by decide, by decide⟩
    let t : Transition := .make ⟨1, stray⟩ .idle .active "" .success
    ofDocument? (document .compact t) = some { t with wall := behind } ∧
      ofDocument? (document .compact t) ≠ some t := by
  intro stray behind t
  have carried : t.carried = { t with wall := behind } := by decide
  have other : t.carried ≠ t := by decide
  have back : ofDocument? (document .compact t) = some t.carried :=
    ofDocument?_document Layout.blank_compact t
  rw [back, ← carried]
  exact ⟨rfl, fun same => other (Option.some.inj same)⟩

end AgentState
