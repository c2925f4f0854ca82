/-
AgentState.Proofs.Wire.Cut — octets that end too early or too late.

No encoding of a snapshot goes on where another one ends.  A text or a frame
that is cut off anywhere is refused as malformed, and never for its format.
Behind a frame there may be anything, and behind a text white space.

* `Frame.Frugal` — readers for which it does not matter what is behind the
  octets that they take; `Frugal.bind`, `Frugal.map` — how they are put
  together.
* `SelfContained` — kinds of values whose frames are read so.
* `Encoding.decode_cut_or_extended` — all of it, for every snapshot.  What is
  behind changes nothing of what is read back.
-/
import AgentState.Proofs.Json.Ending
import AgentState.Proofs.Wire.Codec
import AgentState.Proofs.Wire.Frame
import AgentState.Proofs.Wire.Gate

namespace AgentState

open Framed Json Octet

namespace Frame

/-! ## Readers that look at nothing else -/

/-- A reader for which it does not matter what is behind the octets that it
takes. -/
structure Frugal {α : Type} (read : Octets → Option (α × Octets)) : Prop where
  append : ∀ {bs rest : Octets} {a : α}, read bs = some (a, rest) →
    ∀ more, read (bs ++ more) = some (a, rest ++ more)

namespace Frugal

variable {α β : Type}

/-- One reader after the other. -/
theorem bind {first : Octets → Option (α × Octets)} {next : α × Octets → Option (β × Octets)}
    (frugal : Frugal first) (then_frugal : ∀ a, Frugal fun bs => next (a, bs)) :
    Frugal fun bs => first bs >>= next := by
  refine ⟨fun {bs rest b} read more => ?_⟩
  obtain ⟨⟨a, bs'⟩, found, read⟩ := Option.bind_eq_some_iff.1 read
  exact bind_of_some (frugal.append found more) ((then_frugal a).append read more)

/-- A value that is looked at before the reader goes on. -/
theorem check {found : Option α} {next : α → Octets → Option (β × Octets)}
    (frugal : ∀ a, Frugal (next a)) : Frugal fun bs => found >>= fun a => next a bs := by
  refine ⟨fun {bs rest b} read more => ?_⟩
  obtain ⟨a, found, read⟩ := Option.bind_eq_some_iff.1 read
  exact bind_of_some found ((frugal a).append read more)

/-- What is read, as something else. -/
theorem map {read : Octets → Option (α × Octets)} (frugal : Frugal read) (f : α → β) :
    Frugal fun bs => (read bs).map (fun r => (f r.1, r.2)) := by
  refine ⟨fun {bs rest b} mapped more => ?_⟩
  obtain ⟨⟨a, rest'⟩, found, same⟩ := Option.map_eq_some_iff.1 mapped
  cases same
  show (read (bs ++ more)).map _ = _
  rw [frugal.append found more]
  rfl

/-- A reader that takes nothing. -/
theorem pure (a : α) : Frugal fun bs => some (a, bs) := by
  refine ⟨fun {bs rest a'} found more => ?_⟩
  cases found
  rfl

end Frugal

theorem frugal_takeNat? (width : Nat) : Frugal (takeNat? width) := by
  induction width with
  | zero => exact .pure 0
  | succ width ih =>
    refine ⟨fun {bs rest n} found more => ?_⟩
    cases bs with
    | nil => cases found
    | cons b bs => exact (ih.map fun n => b.toNat + 256 * n).append found more

theorem frugal_takeOctets? (n : Nat) : Frugal (takeOctets? n) := by
  refine ⟨fun {bs rest body} found more => ?_⟩
  unfold takeOctets? at found ⊢
  split at found
  · next enough =>
    cases found
    have longer : n ≤ (bs ++ more).length := by
      rw [List.length_append]
      omega
    rw [if_pos longer, List.take_append_of_le_length enough, List.drop_append_of_le_length enough]
  · cases found

/-! ## Values -/

end Frame

open AgentState.Frame

/-- Kinds of values whose frames are read without a look at what is behind
them. -/
class SelfContained (α : Type) [Framed α] : Prop where
  frugal : Frugal (take? : Octets → Option (α × Octets))

namespace Frame

open SelfContained (frugal)

instance : SelfContained UInt32 := ⟨(frugal_takeNat? 4).map UInt32.ofNat⟩

instance : SelfContained Int32 := ⟨(frugal_takeNat? 4).map fun n => (UInt32.ofNat n).toInt32⟩

instance : SelfContained UInt64 := ⟨(frugal_takeNat? 8).map UInt64.ofNat⟩

instance : SelfContained String :=
  ⟨.bind (frugal_takeNat? 8) fun n => .bind (frugal_takeOctets? n) fun _ => .check fun s => .pure s⟩

instance : SelfContained WallTime :=
  ⟨.bind (frugal (α := String)) fun _ => .check fun t => .pure t⟩

section

variable {α β : Type} [Framed α] [Framed β] [SelfContained α] [SelfContained β]

instance : SelfContained (Option α) := by
  refine ⟨⟨fun {bs rest o} found more => ?_⟩⟩
  cases bs with
  | nil => cases found
  | cons b bs =>
    simp only [take?, List.cons_append] at found ⊢
    split at found
    · next absent =>
      cases found
      rw [if_pos absent]
    · next given =>
      rw [if_neg given]
      split at found
      · next tag =>
        rw [if_pos tag]
        exact (frugal.map some).append found more
      · cases found

instance : SelfContained (α × β) := ⟨.bind frugal fun _ => .bind frugal fun _ => .pure _⟩

theorem frugal_takeMany? (n : Nat) : Frugal (takeMany? n : Octets → Option (List α × Octets)) := by
  induction n with
  | zero => exact .pure []
  | succ n ih =>
    refine ⟨fun {bs rest as} found more => ?_⟩
    simp only [takeMany?] at found ⊢
    split at found
    · cases found
    · next a bs' first =>
      rw [frugal.append first more]
      exact (ih.map fun as => a :: as).append found more

instance : SelfContained (List α) := ⟨.bind (frugal_takeNat? 8) frugal_takeMany?⟩

end

instance : SelfContained TextMap := ⟨(frugal (α := List (String × String))).map TextMap.ofList⟩

instance : SelfContained WireTransition where
  frugal :=
    .bind frugal fun _ => .bind frugal fun _ => .bind frugal fun _ => .bind frugal fun _ =>
      .bind frugal fun _ => .bind frugal fun _ => .bind frugal fun _ => .pure _

instance : SelfContained WireSnapshot where
  frugal :=
    .bind frugal fun _ => .bind frugal fun _ => .bind frugal fun _ => .bind frugal fun _ =>
      .bind frugal fun _ => .bind frugal fun _ => .bind frugal fun _ => .bind frugal fun _ =>
      .bind frugal fun _ => .bind frugal fun _ => .bind frugal fun _ => .bind frugal fun _ =>
      .bind frugal fun _ => .bind frugal fun _ => .bind frugal fun _ => .pure _

/-- From a frame that is cut off nothing is read: it would be read from the
whole frame as well, with the end of it left over. -/
theorem take?_cut {α : Type} [Framed α] [Streaming α] [SelfContained α] {a : α}
    (fits : Streaming.Fits a) {p q : Octets} (split : put a = p ++ q) (cut : q ≠ []) :
    (take? p : Option (α × Octets)) = none := by
  cases read : (take? p : Option (α × Octets)) with
  | none => rfl
  | some found =>
    obtain ⟨b, rest⟩ := found
    have whole := Streaming.take?_put fits []
    rw [List.append_nil, split, frugal.append read q] at whole
    have ended : rest ++ q = [] := congrArg Prod.snd (Option.some.inj whole)
    exact absurd (List.append_eq_nil_iff.1 ended).2 cut

end Frame

/-! ## Encodings -/

namespace Encoding

/-- The octets of a snapshot that is cut off in a frame give its format, if
they give one, and no record. -/
theorem decode_frame_cut {s : Snapshot} (fits : s.FitsFrame) {p q : Octets}
    (split : Encoding.binary.encode s = p ++ q) (cut : q ≠ []) (ids : FreshIds) :
    Encoding.binary.decode ids p = .error .malformed := by
  rw [← encode_carried] at split
  have record : Encoding.binary.reading.record? p = none := by
    show (take? p : Option (WireSnapshot × Octets)).map Prod.fst = none
    rw [Frame.take?_cut (fits_carried fits) split cut, Option.map_none]
  have format : ∀ n, Encoding.binary.reading.format? p = some n → n = formatVersion := by
    intro n first
    obtain ⟨⟨n', rest⟩, found, same⟩ := Option.map_eq_some_iff.1 first
    obtain ⟨rest', front⟩ := Frame.take?_format (.ofSnapshot s.carried)
    have longer := SelfContained.frugal.append found q
    rw [← split, show Encoding.binary.encode s.carried = put (WireSnapshot.ofSnapshot s.carried)
      from rfl, front] at longer
    cases longer
    exact same.symm
  rw [decode, decodeRecord_eq]
  cases first : Encoding.binary.reading.format? p with
  | none => rfl
  | some n =>
    cases format n first
    simp [record, Except.map]

/-- Behind the frame of a snapshot there may be anything. -/
theorem decode_frame_append {s : Snapshot} (fits : s.FitsFrame) (t : Octets) (ids : FreshIds) :
    Encoding.binary.decode ids (Encoding.binary.encode s ++ t) = .ok s.carried := by
  rw [← encode_carried]
  have whole := Streaming.take?_put (fits_carried fits) t
  obtain ⟨rest, front⟩ := Frame.take?_format (.ofSnapshot s.carried)
  have header := SelfContained.frugal.append front t
  have first : binaryReading.format? (put (WireSnapshot.ofSnapshot s.carried) ++ t) =
      some formatVersion := by
    simp only [binaryReading, header, Option.map_some]
    rfl
  have record : binaryReading.record? (put (WireSnapshot.ofSnapshot s.carried) ++ t) =
      some (.ofSnapshot s.carried) := by
    simp only [binaryReading, whole, Option.map_some]
  exact (decode_ok_iff _ _ _ _).2 ⟨formatVersion, .ofSnapshot s.carried, first,
    UInt32.le_refl _, record, (WireSnapshot.toSnapshot_ofSnapshot ids s.carried).symm⟩

/-- Octets that are no document are refused as malformed. -/
theorem decode_of_read?_none {reader : Encoding} (text : reader ∈ texts) {bs : Octets}
    (none : Value.read? bs = none) (ids : FreshIds) :
    reader.decode ids bs = .error .malformed := by
  have first : jsonReading.format? bs = Option.none := by simp [jsonReading, none]
  rw [decode, decodeRecord_eq, reading_of_text text, first]
  rfl

/-- The text of a snapshot is that of an object, between two braces. -/
theorem text_encode {writer : Encoding} (text : writer ∈ texts) (s : Snapshot) :
    (write (WireSnapshot.ofSnapshot s)).Text (writer.encode s) ∧
      ∃ inner, writer.encode s = openBrace :: (inner ++ [closeBrace]) := by
  obtain ⟨lay, blank, rendered⟩ := encodeRecord_of_text text (.ofSnapshot s)
  rw [encode, rendered]
  exact ⟨Value.read?_eq_some_iff.1 (Value.read?_render blank (Carrying.spelled _)),
    Value.render_object lay _⟩

/-- What is cut off at the end, or goes on where it should end.  A text or a
frame of a snapshot is refused as malformed wherever it is cut off, also in
front of its first octet.  Behind a text there may be white space, and with
anything else behind it it is refused; behind a frame there may be anything.
What is read back is then what would be read back without it: the snapshot
carried over, so the snapshot itself exactly if every leap second in it ends a
minute.  Of a frame all this is said under the one condition under which a
snapshot is read back at all. -/
theorem decode_cut_or_extended (ids : FreshIds) (s : Snapshot) :
    (∀ writer ∈ texts, ∀ reader ∈ texts,
      (∀ p, p <+: writer.encode s → p ≠ writer.encode s →
        reader.decode ids p = .error .malformed) ∧
      (∀ t, (∀ b ∈ t, Scanner.isSpace b = true) →
        reader.decode ids (writer.encode s ++ t) = .ok s.carried) ∧
      ∀ t, (∃ b ∈ t, Scanner.isSpace b = false) →
        reader.decode ids (writer.encode s ++ t) = .error .malformed) ∧
    (s.FitsFrame →
      (∀ p, p <+: Encoding.binary.encode s → p ≠ Encoding.binary.encode s →
        Encoding.binary.decode ids p = .error .malformed) ∧
      ∀ t, Encoding.binary.decode ids (Encoding.binary.encode s ++ t) = .ok s.carried) ∧
    (s.carried = s ↔ ∀ t ∈ s.walls, t.IsRegular) := by
  have cut {p q bs : Octets} (split : p ++ q = bs) (proper : p ≠ bs) : q ≠ [] := by
    rintro rfl
    exact proper (by rw [← split, List.append_nil])
  refine ⟨?_, ?_, Snapshot.carried_eq_self_iff⟩
  · intro writer writes reader reads
    obtain ⟨text, inner, braces⟩ := text_encode writes s
    refine ⟨?_, ?_, ?_⟩
    · rintro p ⟨q, split⟩ proper
      have document := Value.read?_of_text text
      rw [braces] at document
      exact decode_of_read?_none reads
        (Value.read?_object_cut document (braces ▸ split.symm) (cut split proper)) ids
    · intro t space
      have document := Value.read?_eq_some_iff.1 (Value.read?_object_space text space)
      rw [decode_of_reads reads document (WireSnapshot.formatOf?_write (.ofSnapshot s))
        (UInt32.le_refl _) (Carrying.read?_write (WireSnapshot.ofSnapshot s))]
      exact congrArg Except.ok ((WireSnapshot.toSnapshot_carried _ _).trans
        (congrArg Snapshot.carried (WireSnapshot.toSnapshot_ofSnapshot ids s)))
    · rintro t ⟨b, mem, other⟩
      have more : ¬∀ b ∈ t, Scanner.isSpace b = true := fun space => by
        rw [space b mem] at other
        cases other
      exact decode_of_read?_none reads (Value.read?_object_more text more) ids
  · intro fits
    constructor
    · rintro p ⟨q, split⟩ proper
      exact decode_frame_cut fits split.symm (cut split proper) ids
    · intro t
      exact decode_frame_append fits t ids

/-- A frame without its last octet and no octets at all are refused, and so is
a text with a second document behind it; a line end and a further octet do no
harm. -/
theorem decode_cut_or_extended_idle :
    let ids : FreshIds := ⟨"x", "y"⟩
    let s := Snapshot.fresh ⟨"", ⟨0, .epoch⟩⟩ "é" .idle "\n"
    s.FitsFrame ∧ Encoding.pretty.decode ids [] = .error .malformed ∧
      Encoding.json.decode ids (Encoding.pretty.encode s ++ [lineFeed]) = .ok s ∧
      Encoding.json.decode ids (Encoding.json.encode s ++ [space, openBrace, closeBrace]) =
        .error .malformed ∧
      Encoding.binary.decode ids (Encoding.binary.encode s).dropLast = .error .malformed ∧
      Encoding.binary.decode ids (Encoding.binary.encode s ++ [7]) = .ok s := by
  intro ids s
  have fits : s.FitsFrame := by decide
  have some : Encoding.binary.encode s ≠ [] := by
    simp [encode, encodeRecord, put, Frame.putNat]
  obtain ⟨readers, frames, itself⟩ := decode_cut_or_extended ids s
  have same : s.carried = s := itself.2 (by decide)
  rw [same] at readers frames
  obtain ⟨cut, more⟩ := frames fits
  refine ⟨fits, ?_, ?_, ?_, cut _ (List.dropLast_prefix _) ?_, more [7]⟩
  · obtain ⟨-, inner, braces⟩ := text_encode (show Encoding.pretty ∈ texts by decide) s
    refine (readers .pretty (by decide) .pretty (by decide)).1 [] List.nil_prefix ?_
    rw [braces]
    simp
  · exact (readers .pretty (by decide) .json (by decide)).2.1 _ (by simp [Scanner.isSpace])
  · exact (readers .json (by decide) .json (by decide)).2.2 _ ⟨openBrace, by simp, by decide⟩
  · intro same
    have shorter := congrArg List.length same
    have length := List.length_pos_iff.2 some
    rw [List.length_dropLast] at shorter
    omega

/-- With an octet behind its frame, a leap second inside a minute comes back as
the second behind it. -/
theorem decode_extended_stray :
    let stray : WallTime := ⟨1704110404, 1500000000, by decide, by decide⟩
    let behind : WallTime := ⟨1704110405, 500000000, by decide, by decide⟩
    let s := Snapshot.fresh ⟨"s", ⟨1, stray⟩⟩ "run" .idle ""
    let bs := Encoding.binary.encode s ++ [7]
    s.FitsFrame ∧ Encoding.binary.decode ⟨"x", "y"⟩ bs = .ok { s with wall := behind } ∧
      Encoding.binary.decode ⟨"x", "y"⟩ bs ≠ .ok s := by
  intro stray behind s bs
  have fits : s.FitsFrame := by decide
  have carried : s.carried = { s with wall := behind } := by decide
  have other : s.carried ≠ s := by decide
  rw [decode_frame_append fits, ← carried]
  exact ⟨fits, rfl, fun same => other (Except.ok.inj same)⟩

end Encoding

end AgentState
