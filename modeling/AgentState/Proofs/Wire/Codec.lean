/-
AgentState.Proofs.Wire.Codec — snapshots are read back from their text.

The two readings of a text are followed one after the other: the format
is found and is the current one, and then the whole record is found.

* `Encoding.decodeRecord_render` — a wire record of the current format is
  read back from its document, in every layout that puts nothing but
  white space between tokens.  Points of time are carried over.
* `Encoding.decode_text` — what is read back from the text of either JSON
  encoding, by either, whatever the order of the maps' entries: the snapshot
  itself, unless there is a leap second inside a minute.
-/
import AgentState.Proofs.Wire.Json

namespace AgentState

open Json

namespace Encoding

/-- The encodings that write text. -/
def texts : List Encoding := [.json, .pretty]

/-- Both text encodings are read in one way. -/
theorem reading_of_text {reader : Encoding} (h : reader ∈ texts) :
    reader.reading = jsonReading := by
  simp only [texts, List.mem_cons, List.not_mem_nil, or_false] at h
  rcases h with rfl | rfl <;> rfl

/-- A text encoding writes the record's document in a layout of its own. -/
theorem encodeRecord_of_text {writer : Encoding} (h : writer ∈ texts) (w : WireSnapshot) :
    ∃ lay : Layout, lay.Blank ∧ writer.encodeRecord w = (write w).render lay := by
  simp only [texts, List.mem_cons, List.not_mem_nil, or_false] at h
  rcases h with rfl | rfl
  · exact ⟨.compact, Layout.blank_compact, rfl⟩
  · exact ⟨.pretty, Layout.blank_pretty, rfl⟩

/-- A record of the current format is read back from its document, carried
over. -/
theorem decodeRecord_render {reader : Encoding} (h : reader ∈ texts) {lay : Layout}
    (hlay : lay.Blank) {w : WireSnapshot} (hformat : w.format = formatVersion) :
    reader.decodeRecord ((write w).render lay) = .ok w.carried := by
  have hread : Value.read? ((write w).render lay) = some (write w) :=
    Value.read?_render hlay (Carrying.spelled w)
  have hback : read? (write w) = some w.carried := Carrying.read?_write w
  have hfirst : jsonReading.format? ((write w).render lay) = some formatVersion := by
    simp [jsonReading, hread, WireSnapshot.formatOf?_write, hformat]
  have hwhole : jsonReading.record? ((write w).render lay) = some w.carried := by
    simp [jsonReading, hread, hback]
  rw [decodeRecord, reading_of_text h, hfirst, hwhole]
  rfl

/-- What is read back of a snapshot from the text of either text encoding, by
either of them. -/
theorem decode_encode {writer reader : Encoding} (hw : writer ∈ texts) (hr : reader ∈ texts)
    (ids : FreshIds) (s : Snapshot) : reader.decode ids (writer.encode s) = .ok s.carried := by
  obtain ⟨lay, hlay, hrender⟩ := encodeRecord_of_text hw (.ofSnapshot s)
  have hrecord := decodeRecord_render hr hlay (w := .ofSnapshot s) rfl
  rw [decode, encode, hrender, hrecord, Except.map, WireSnapshot.toSnapshot_carried,
    WireSnapshot.toSnapshot_ofSnapshot]

/-- What is read back of a snapshot from its text, whichever text encoding
writes and whichever reads: the snapshot carried over, so the snapshot itself
exactly if every leap second in it ends a minute.  The entries of the maps may
be written in any order: it is the order in which they are read back, and what
is found under each key is the same. -/
theorem decode_text (ids : FreshIds) (s : Snapshot) {context metadata : TextMap}
    (hcontext : context.entries.Perm s.context.entries)
    (hmetadata : metadata.entries.Perm s.metadata.entries) :
    (∀ writer ∈ texts, ∀ reader ∈ texts,
        let back := reader.decode ids (writer.encode { s with context, metadata })
        back = .ok { s.carried with context, metadata } ∧
          (back = .ok { s with context, metadata } ↔ ∀ t ∈ s.walls, t.IsRegular)) ∧
      (∀ k, context.get? k = s.context.get? k) ∧ (∀ k, metadata.get? k = s.metadata.get? k) := by
  refine ⟨?_, ?_, ?_⟩
  · intro writer hw reader hr back
    have carried : back = .ok { s.carried with context, metadata } := decode_encode hw hr ids _
    refine ⟨carried, ?_⟩
    rw [carried]
    exact Snapshot.ok_carried_iff (s := { s with context, metadata })
  · intro k
    exact TextMap.get?_of_perm hcontext k
  · intro k
    exact TextMap.get?_of_perm hmetadata k

/-- A leap second before the year 0, a control character and an empty
identifier, with the two entries of the context in the other order. -/
theorem decode_text_swapped :
    let leap : WallTime := ⟨-62198755201, 1500000000, by decide, by decide⟩
    let s : Snapshot :=
      { Snapshot.fresh ⟨"", ⟨0, leap⟩⟩ "node" .idle "\n" with
        context := ⟨[("a", ""), ("b", "2")], by decide⟩ }
    let swapped : TextMap := ⟨[("b", "2"), ("a", "")], by decide⟩
    swapped.entries.Perm s.context.entries ∧ s.metadata.entries.Perm s.metadata.entries ∧
      (∀ t ∈ s.walls, t.IsRegular) ∧
      Encoding.pretty.decode ⟨"x", "y"⟩ (Encoding.json.encode { s with context := swapped }) =
        .ok { s with context := swapped } ∧
      swapped.get? "a" = s.context.get? "a" := by
  intro leap s swapped
  have hswap : swapped.entries.Perm s.context.entries := List.Perm.swap _ _ _
  have hsame : s.metadata.entries.Perm s.metadata.entries := .refl _
  have hregular : ∀ t ∈ s.walls, t.IsRegular := by decide
  obtain ⟨hback, hcontext, _⟩ := decode_text ⟨"x", "y"⟩ s hswap hsame
  exact ⟨hswap, hsame, hregular,
    (hback .json (by decide) .pretty (by decide)).2.2 hregular, hcontext "a"⟩

/-- Four seconds after noon and one and a half seconds more, a leap second
inside a minute, come back as the fifth second and a half. -/
theorem decode_text_stray :
    let stray : WallTime := ⟨1704110404, 1500000000, by decide, by decide⟩
    let behind : WallTime := ⟨1704110405, 500000000, by decide, by decide⟩
    let s := Snapshot.fresh ⟨"s", ⟨1, stray⟩⟩ "run" .idle ""
    Timestamp.write stray = "2024-01-01T12:00:05.500Z" ∧
      Encoding.json.decode ⟨"x", "y"⟩ (Encoding.json.encode s) = .ok { s with wall := behind } ∧
      Encoding.json.decode ⟨"x", "y"⟩ (Encoding.json.encode s) ≠ .ok s := by
  intro stray behind s
  have htext : Encoding.json ∈ texts := by decide
  have hcarried : s.carried = { s with wall := behind } := by decide
  have hother : s.carried ≠ s := by decide
  rw [decode_encode htext htext, ← hcarried]
  exact ⟨by decide +kernel, rfl, fun same => hother (Except.ok.inj same)⟩

end Encoding

end AgentState
