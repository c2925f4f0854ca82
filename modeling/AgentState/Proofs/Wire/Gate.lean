/-
AgentState.Proofs.Wire.Gate — the format is looked at first, and alone.

Octets are read twice: for their format, and then in full.  The first
reading is enough to refuse a newer format whatever else the octets hold,
and it stands in nobody's way: an object that is a record as a whole names
the format that the record has.

* `Encoding.decode_unsupported_iff`, `Encoding.decode_ok_iff` — what is
  refused for its format and what is a snapshot, by the two readings.
* `Encoding.binary_format?_iff` — the format of a frame is in its first four
  octets.
* `WireSnapshot.formatOf?_of_members` — the format of an object is in its
  one member of that name, `WireSnapshot.formatOf?_of_read?` — a record has
  the format that its object names.
* `Encoding.format_gate` — the three together.
-/
import AgentState.Proofs.Wire.Sparse

namespace AgentState

open Json Octet

/-! ## The two readings -/

namespace Encoding

/-- What comes of octets, by what is read of them. -/
theorem decodeRecord_eq (e : Encoding) (bs : Octets) :
    e.decodeRecord bs = match e.reading.format? bs with
      | none => .error .malformed
      | some format =>
          if formatVersion < format then .error (.unsupportedVersion format formatVersion)
          else match e.reading.record? bs with
            | none => .error .malformed
            | some w => .ok w := by
  unfold decodeRecord
  cases e.reading.format? bs with
  | none => rfl
  | some format =>
    show (checkFormat format >>= fun _ => _) = _
    by_cases newer : formatVersion < format
    · rw [checkFormat, if_pos newer]
      simp only [newer, if_true]
      rfl
    · rw [checkFormat, if_neg newer]
      simp only [newer, if_false]
      cases e.reading.record? bs <;> rfl

/-- Octets are refused for their format exactly when that is read and newer
than the one that is written. -/
theorem decode_unsupported_iff (e : Encoding) (ids : FreshIds) (bs : Octets) (n k : UInt32) :
    e.decode ids bs = .error (.unsupportedVersion n k) ↔
      e.reading.format? bs = some n ∧ formatVersion < n ∧ k = formatVersion := by
  rw [decode, decodeRecord_eq]
  cases e.reading.format? bs with
  | none => simp [Except.map]
  | some format =>
    by_cases newer : formatVersion < format
    · simp only [newer, if_true, Except.map, Except.error.injEq,
        DecodeError.unsupportedVersion.injEq, Option.some.injEq]
      constructor
      · rintro ⟨found, written⟩
        exact ⟨found, found ▸ newer, written.symm⟩
      · rintro ⟨found, -, written⟩
        exact ⟨found, written.symm⟩
    · have older : ¬ (format = n ∧ formatVersion < n ∧ k = formatVersion) := by
        rintro ⟨found, newer', -⟩
        exact newer (found ▸ newer')
      simp only [newer, if_false, Option.some.injEq, older, iff_false]
      cases e.reading.record? bs <;> simp [Except.map]

/-- Octets are a snapshot exactly when their format is read and not newer,
and then a record. -/
theorem decode_ok_iff (e : Encoding) (ids : FreshIds) (bs : Octets) (s : Snapshot) :
    e.decode ids bs = .ok s ↔ ∃ format w, e.reading.format? bs = some format ∧
      format ≤ formatVersion ∧ e.reading.record? bs = some w ∧ s = w.toSnapshot ids := by
  rw [decode, decodeRecord_eq]
  cases e.reading.format? bs with
  | none => simp [Except.map]
  | some format =>
    by_cases newer : formatVersion < format
    · simp [newer, Except.map]
    · have old : format ≤ formatVersion := UInt32.not_lt.1 newer
      cases e.reading.record? bs with
      | none => simp [newer, Except.map]
      | some w => simp [newer, old, Except.map, eq_comm]

/-! ## Frames -/

/-- The format of a frame is in its first four octets. -/
theorem binary_format?_iff (bs : Octets) (n : UInt32) :
    Encoding.binary.reading.format? bs = some n ↔ ∃ b₀ b₁ b₂ b₃ rest,
      bs = b₀ :: b₁ :: b₂ :: b₃ :: rest ∧ n.toNat =
        b₀.toNat + 256 * b₁.toNat + 65536 * b₂.toNat + 16777216 * b₃.toNat := by
  have read : Encoding.binary.reading.format? bs =
      (Frame.takeNat? 4 bs).map (fun r => UInt32.ofNat r.1) := by
    show ((Frame.takeNat? 4 bs).map _).map Prod.fst = _
    rw [Option.map_map]
    rfl
  rw [read]
  match bs with
  | [] | [_] | [_, _] | [_, _, _] => simp [Frame.takeNat?]
  | b₀ :: b₁ :: b₂ :: b₃ :: rest =>
    have h₀ := b₀.toNat_lt
    have h₁ := b₁.toNat_lt
    have h₂ := b₂.toNat_lt
    have h₃ := b₃.toNat_lt
    have sum : b₀.toNat + 256 * (b₁.toNat + 256 * (b₂.toNat + 256 * (b₃.toNat + 256 * 0))) =
        b₀.toNat + 256 * b₁.toNat + 65536 * b₂.toNat + 16777216 * b₃.toNat := by omega
    simp only [Frame.takeNat?, Option.map_some, Option.some.injEq, sum]
    constructor
    · rintro rfl
      exact ⟨b₀, b₁, b₂, b₃, rest, rfl, by rw [UInt32.toNat_ofNat']; omega⟩
    · rintro ⟨_, _, _, _, _, same, value⟩
      cases same
      rw [← value, UInt32.ofNat_toNat]

end Encoding

/-! ## Objects -/

namespace WireSnapshot

/-- The format of an object is in its one member of that name, whatever the
others are. -/
theorem formatOf?_of_members {members : List (Octets × Value)} {fields : List (String × Value)}
    (named : (Value.object members).members? = some fields) {x : Value} {n : UInt32}
    (one : fields.filter (fun m => m.1 == "format_version") = [("format_version", x)])
    (reads : read? x = some n) : formatOf? (.object members) = some n := by
  have record : (Value.object members).record? ["format_version"] =
      some ⟨true, fun k => fields.lookup k⟩ := by
    rw [Value.record?, named]
    exact Record.ofNamed?_of_once (by simp [one])
  have found : fields.lookup "format_version" = some x := by
    rw [lookup_eq_head?, one]
    rfl
  refine bind_of_some record ?_
  simp only [Record.orElse?, found]
  exact reads

/-- A record has the format that its object names: the whole record asks for
no less of the object than the format alone. -/
theorem formatOf?_of_read? {members : List (Octets × Value)} {w : WireSnapshot}
    (reads : read? (Value.object members) = some w) :
    formatOf? (.object members) = some w.format := by
  obtain ⟨r, record, rest⟩ := Option.bind_eq_some_iff.1
    (show ((Value.object members).record? names >>= _) = some w from reads)
  obtain ⟨format, first, rest⟩ := Option.bind_eq_some_iff.1 rest
  have alone : (Value.object members).record? ["format_version"] = some r := by
    obtain ⟨fields, named, whole⟩ := Option.bind_eq_some_iff.1
      (show ((Value.object members).members?).bind (Record.ofNamed? names) = some r from record)
    rw [Value.record?, named]
    exact Record.ofNamed?_of_subset (by decide) whole
  have same : w.format = format := by
    -- The fourteen fields behind the format leave it as it is.
    iterate 14 obtain ⟨_, _, rest⟩ := Option.bind_eq_some_iff.1 rest
    cases rest
    rfl
  rw [same]
  exact bind_of_some alone first

end WireSnapshot

namespace Encoding

/-! ## The gate -/

/-- The format comes first: a frame is refused for it exactly when its first
four octets give a newer one, and an object whose names are texts whenever
its one member of that name does, whatever else they hold.  And it is in
nobody's way: what begins with a brace is a snapshot exactly when the whole
record is read and its format is not newer. -/
theorem format_gate (ids : FreshIds) :
    (∀ bs n k, Encoding.binary.decode ids bs = .error (.unsupportedVersion n k) ↔
      k = 1 ∧ 1 < n ∧ ∃ b₀ b₁ b₂ b₃ rest, bs = b₀ :: b₁ :: b₂ :: b₃ :: rest ∧ n.toNat =
        b₀.toNat + 256 * b₁.toNat + 65536 * b₂.toNat + 16777216 * b₃.toNat) ∧
    (∀ reader ∈ texts, ∀ members bs fields, (Value.object members).Text bs →
      (Value.object members).members? = some fields → ∀ x n,
      fields.filter (fun m => m.1 == "format_version") = [("format_version", x)] →
      read? x = some n → 1 < n →
      reader.decode ids bs = .error (.unsupportedVersion n 1)) ∧
    ∀ reader ∈ texts, ∀ blank rest, (∀ b ∈ blank, Scanner.isSpace b = true) → ∀ s,
      (reader.decode ids (blank ++ openBrace :: rest) = .ok s ↔
        ∃ w, reader.reading.record? (blank ++ openBrace :: rest) = some w ∧ w.format ≤ 1 ∧
          s = w.toSnapshot ids) := by
  refine ⟨?_, ?_, ?_⟩
  · intro bs n k
    rw [decode_unsupported_iff, binary_format?_iff]
    constructor
    · rintro ⟨octets, newer, written⟩
      exact ⟨written, newer, octets⟩
    · rintro ⟨written, newer, octets⟩
      exact ⟨octets, newer, written⟩
  · intro reader text members bs fields spelled named x n one reads newer
    refine (decode_unsupported_iff _ _ _ _ _).2 ⟨?_, newer, rfl⟩
    rw [reading_of_text text]
    simp [jsonReading, Value.read?_of_text spelled,
      WireSnapshot.formatOf?_of_members named one reads]
  · intro reader text blank rest space s
    rw [decode_ok_iff, reading_of_text text]
    constructor
    · rintro ⟨format, w, first, old, record, rfl⟩
      obtain ⟨v, document, reads⟩ := Option.bind_eq_some_iff.1 record
      obtain ⟨members, rfl⟩ := Value.read?_of_brace space document
      have same : some format = some w.format := by
        rw [← first, ← WireSnapshot.formatOf?_of_read? reads]
        simp [jsonReading, document]
      cases same
      exact ⟨w, record, old, rfl⟩
    · rintro ⟨w, record, old, rfl⟩
      obtain ⟨v, document, reads⟩ := Option.bind_eq_some_iff.1 record
      obtain ⟨members, rfl⟩ := Value.read?_of_brace space document
      refine ⟨w.format, w, ?_, old, record, rfl⟩
      simp [jsonReading, document, WireSnapshot.formatOf?_of_read? reads]

/-- A newer format behind a version that is none. -/
def newer : List (String × Value) :=
  [("version", .bool true), ("format_version", write (9 : UInt32))]

def newerText : Octets := octetsOf "\x7b\"version\":true,\"format_version\":9\x7d"

theorem text_newer : (objectValue newer).Text newerText := by
  have nine : write (9 : UInt32) = Value.number (octetsOf "9") :=
    congrArg Value.number (by decide +kernel)
  refine Value.read?_eq_some_iff.1 ?_
  rw [newer, nine]
  rfl

/-- Four octets and a document with a version that is none are refused for
their format; an empty object is a snapshot because it is a record. -/
theorem format_gate_newer :
    let ids : FreshIds := ⟨"x", "y"⟩
    Encoding.binary.decode ids [9, 0, 0, 0] = .error (.unsupportedVersion 9 1) ∧
      Encoding.json.decode ids newerText = .error (.unsupportedVersion 9 1) ∧
      Encoding.pretty.decode ids ([space] ++ openBrace :: [closeBrace]) =
        .ok (WireSnapshot.blank.toSnapshot ids) := by
  intro ids
  obtain ⟨frames, objects, braces⟩ := format_gate ids
  refine ⟨?_, ?_, ?_⟩
  · exact (frames _ 9 1).2 ⟨rfl, by decide, 9, 0, 0, 0, [], rfl, by decide⟩
  · exact objects .json (by decide) _ _ newer text_newer (members?_objectValue newer)
      (write (9 : UInt32)) 9 rfl (Lossless.read?_write 9) (by decide)
  · exact (braces .pretty (by decide) [space] [closeBrace] (by simp [Scanner.isSpace]) _).2
      ⟨WireSnapshot.blank, rfl, by decide, rfl⟩

/-- A newer format before a member whose name is half of a surrogate pair. -/
def newerStrange : List (Octets × Value) :=
  [(octetsOf "format_version", .number (octetsOf "9")),
    (octetsOf "\\ud800", .number (octetsOf "1"))]

def newerStrangeText : Octets := octetsOf "\x7b\"format_version\":9,\"\\ud800\":1\x7d"

/-- A newer format is not looked at in an object with a name that is no
text: such an object is refused as a whole. -/
theorem newer_format_is_overlooked :
    (Value.object newerStrange).Text newerStrangeText ∧
      newerStrange.map (fun m => Quoted.text? m.1) = [some "format_version", none] ∧
      newerStrange.head? = some (octetsOf "format_version", write (9 : UInt32)) ∧
      ∀ ids, Encoding.json.decode ids newerStrangeText = .error .malformed := by
  have text : (Value.object newerStrange).Text newerStrangeText := Value.read?_eq_some_iff.1 rfl
  have nine : write (9 : UInt32) = Value.number (octetsOf "9") :=
    congrArg Value.number (by decide +kernel)
  refine ⟨text, rfl, by rw [nine]; rfl, fun ids => ?_⟩
  exact decode_of_nameless (by decide) text ⟨_, List.mem_cons_of_mem _ List.mem_cons_self, rfl⟩ ids

end Encoding

end AgentState
