/-
AgentState.Proofs.Wire.Frame — snapshots are read back from their frames.

A frame is read from the front of octets, whatever follows it.  Lengths
have eight octets in it, so the length of a longer text, list or map would
not come back.  Whether all lengths of a value fit is the only condition.

* `Streaming` — kinds of values whose frames are read back, with `Fits`,
  the condition on their lengths and points of time.  Whatever is read fits.
* Instances for numbers, texts, points of time, optional values, pairs,
  lists, maps and the wire records.
* `Frame.put_wireSnapshot_carried` — a record has the frame of the record that is
  carried over.
* `Snapshot.FitsFrame` — the condition on the lengths of a snapshot.
* `Encoding.decode_frame` — what is read back from the frame of a snapshot
  whose lengths can be written: the snapshot itself, unless there is a leap
  second inside a minute.
-/
import AgentState.Proofs.Wire.Json

namespace AgentState

open Framed

/-- Kinds of values whose frames are read back. -/
class Streaming (α : Type) [Framed α] where
  Fits : α → Prop
  take?_put : ∀ {a : α}, Fits a → ∀ rest, take? (put a ++ rest) = some (a, rest)
  fits_of_take? : ∀ {bs : Octets} {a : α} {rest : Octets}, take? bs = some (a, rest) → Fits a

namespace Frame

open Streaming

/-! ## Numbers -/

theorem takeNat?_putNat (width n : Nat) (rest : Octets) :
    takeNat? width (putNat width n ++ rest) = some (n % 256 ^ width, rest) := by
  induction width generalizing n with
  | zero => simp [takeNat?, putNat, Nat.mod_one]
  | succ width ih =>
    have hlow : (UInt8.ofNat (n % 256)).toNat = n % 256 := by
      rw [UInt8.toNat_ofNat']
      omega
    rw [putNat, List.cons_append, takeNat?, ih, Option.map_some, hlow, Nat.pow_succ', Nat.mod_mul]

theorem takeNat?_putNat_of_lt {width n : Nat} (h : n < 256 ^ width) (rest : Octets) :
    takeNat? width (putNat width n ++ rest) = some (n, rest) := by
  rw [takeNat?_putNat, Nat.mod_eq_of_lt h]

/-- What is read from some octets is a number of that width. -/
theorem lt_of_takeNat? {width n : Nat} {bs rest : Octets} (h : takeNat? width bs = some (n, rest)) :
    n < 256 ^ width := by
  induction width generalizing n bs rest with
  | zero =>
    simp only [takeNat?, Option.some.injEq, Prod.mk.injEq] at h
    rw [← h.1]
    decide
  | succ width ih =>
    cases bs with
    | nil => cases h
    | cons b bs =>
      obtain ⟨⟨high, rest'⟩, hread, heq⟩ := Option.map_eq_some_iff.1 h
      have hhigh := ih hread
      have hlow := b.toNat_lt
      simp only [Prod.mk.injEq] at heq
      rw [← heq.1, Nat.pow_succ']
      omega

instance : Streaming UInt32 where
  Fits _ := True
  take?_put {n} _ rest := by
    have hn : n.toNat < 256 ^ 4 := n.toNat_lt
    simp [take?, put, takeNat?_putNat_of_lt hn]
  fits_of_take? _ := trivial

instance : Streaming Int32 where
  Fits _ := True
  take?_put {n} _ rest := by
    have hn : n.toUInt32.toNat < 256 ^ 4 := n.toUInt32.toNat_lt
    simp only [take?, put, takeNat?_putNat_of_lt hn, Option.map_some, UInt32.ofNat_toNat,
      Int32.toInt32_toUInt32]
  fits_of_take? _ := trivial

instance : Streaming UInt64 where
  Fits _ := True
  take?_put {n} _ rest := by
    have hn : n.toNat < 256 ^ 8 := n.toNat_lt
    simp [take?, put, takeNat?_putNat_of_lt hn]
  fits_of_take? _ := trivial

/-! ## Texts -/

/-- Whether a length can be written in a frame. -/
def IsLength (n : Nat) : Prop := n < UInt64.size

instance (n : Nat) : Decidable (IsLength n) := inferInstanceAs (Decidable (n < UInt64.size))

theorem takeNat?_length {n : Nat} (h : IsLength n) (rest : Octets) :
    takeNat? 8 (putNat 8 n ++ rest) = some (n, rest) :=
  takeNat?_putNat_of_lt h rest

theorem isLength_of_takeNat? {n : Nat} {bs rest : Octets} (h : takeNat? 8 bs = some (n, rest)) :
    IsLength n :=
  lt_of_takeNat? h

theorem takeOctets?_append (body rest : Octets) :
    takeOctets? body.length (body ++ rest) = some (body, rest) := by
  simp [takeOctets?]

theorem length_of_takeOctets? {n : Nat} {bs body rest : Octets}
    (h : takeOctets? n bs = some (body, rest)) : body.length = n := by
  unfold takeOctets? at h
  split at h
  · next hn =>
    simp only [Option.some.injEq, Prod.mk.injEq] at h
    rw [← h.1, List.length_take, Nat.min_eq_left hn]
  · cases h

/-- A text that was read from octets has these octets. -/
theorem octetsOf_of_textOf? {bs : Octets} {s : String} (h : textOf? bs = some s) :
    octetsOf s = bs := by
  unfold textOf? String.fromUTF8? at h
  split at h
  · rw [← Option.some.inj h]
    simp [octetsOf, String.fromUTF8]
  · cases h

instance : Streaming String where
  Fits s := IsLength (octetsOf s).length
  take?_put {s} hs rest := by
    simp only [put, List.append_assoc]
    refine bind_of_some (takeNat?_length hs _) ?_
    refine bind_of_some (takeOctets?_append _ _) ?_
    exact bind_of_some (textOf?_octetsOf s) rfl
  fits_of_take? {bs s rest} h := by
    obtain ⟨⟨n, _⟩, hn, h⟩ := Option.bind_eq_some_iff.1 h
    obtain ⟨⟨body, _⟩, hbody, h⟩ := Option.bind_eq_some_iff.1 h
    obtain ⟨s', hs, h⟩ := Option.bind_eq_some_iff.1 h
    cases h
    rw [octetsOf_of_textOf? hs, length_of_takeOctets? hbody]
    exact isLength_of_takeNat? hn

/-! ## Points of time -/

/-- No character has more than four octets. -/
theorem length_utf8_le (cs : List Char) :
    (cs.flatMap String.utf8EncodeChar).length ≤ 4 * cs.length := by
  induction cs with
  | nil => simp
  | cons c cs ih =>
    have hc := c.utf8Size_le_four
    simp only [List.flatMap_cons, List.length_append, String.length_utf8EncodeChar,
      List.length_cons]
    omega

theorem length_octetsOf_le (cs : List Char) :
    (octetsOf (String.ofList cs)).length ≤ 4 * cs.length := by
  have hall : octetsOf (String.ofList cs) = cs.flatMap String.utf8EncodeChar := by
    simp [octetsOf, List.utf8Encode]
  rw [hall]
  exact length_utf8_le cs

theorem fits_write (t : WallTime) : Fits (Timestamp.write t) := by
  have hchars := Timestamp.length_chars_le t
  have hoctets := length_octetsOf_le (Timestamp.chars t)
  show (octetsOf (String.ofList (Timestamp.chars t))).length < UInt64.size
  have : (160 : Nat) < UInt64.size := by decide
  omega

instance : Streaming WallTime where
  Fits t := t.IsRegular
  take?_put {t} ht rest := by
    have hback : Timestamp.read? (Timestamp.write t) = some t := by
      rw [Timestamp.read?_write, WallTime.carried_eq_self_iff.2 ht]
    refine bind_of_some (take?_put (fits_write t) rest) ?_
    exact bind_of_some hback rfl
  fits_of_take? {bs t rest} h := by
    obtain ⟨⟨s, _⟩, -, h⟩ := Option.bind_eq_some_iff.1 h
    obtain ⟨t', hread, h⟩ := Option.bind_eq_some_iff.1 h
    cases h
    exact Timestamp.isRegular_of_read? hread

/-! ## Optional values, pairs and lists -/

section

variable {α β : Type} [Framed α] [Framed β] [Streaming α] [Streaming β]

theorem take?_some_put {a : α} (h : Fits a) (rest : Octets) :
    take? (put (some a) ++ rest) = some (some a, rest) := by
  show (take? (put a ++ rest)).map (fun r => (some r.1, r.2)) = _
  rw [take?_put h, Option.map_some]

instance : Streaming (Option α) where
  Fits o := ∀ a ∈ o, Fits a
  take?_put {o} ho rest := by
    cases o with
    | none => rfl
    | some a => exact take?_some_put (ho a rfl) rest
  fits_of_take? {bs o rest} h := by
    intro a ha
    cases ha
    cases bs with
    | nil => cases h
    | cons b bs =>
      simp only [take?] at h
      split at h
      · cases h
      · split at h
        · obtain ⟨⟨a', _⟩, hread, heq⟩ := Option.map_eq_some_iff.1 h
          cases heq
          exact fits_of_take? hread
        · cases h

instance : Streaming (α × β) where
  Fits p := Fits p.1 ∧ Fits p.2
  take?_put {p} hp rest := by
    simp only [put, List.append_assoc]
    refine bind_of_some (take?_put hp.1 _) ?_
    exact bind_of_some (take?_put hp.2 _) rfl
  fits_of_take? {bs p rest} h := by
    obtain ⟨⟨a, _⟩, ha, h⟩ := Option.bind_eq_some_iff.1 h
    obtain ⟨⟨b, _⟩, hb, h⟩ := Option.bind_eq_some_iff.1 h
    cases h
    exact ⟨fits_of_take? ha, fits_of_take? hb⟩

theorem takeMany?_flatMap {as : List α} (h : ∀ a ∈ as, Fits a) (rest : Octets) :
    takeMany? as.length (as.flatMap put ++ rest) = some (as, rest) := by
  induction as with
  | nil => rfl
  | cons a as ih =>
    have hfirst := take?_put (h a List.mem_cons_self) (as.flatMap put ++ rest)
    have hrest := ih fun b hb => h b (List.mem_cons_of_mem a hb)
    rw [List.length_cons, List.flatMap_cons, List.append_assoc, takeMany?, hfirst]
    simp only [hrest, Option.map_some]

theorem fits_of_takeMany? {n : Nat} {bs rest : Octets} {as : List α}
    (h : takeMany? n bs = some (as, rest)) : as.length = n ∧ ∀ a ∈ as, Fits a := by
  induction n generalizing bs as rest with
  | zero =>
    cases h
    exact ⟨rfl, fun a ha => absurd ha List.not_mem_nil⟩
  | succ n ih =>
    simp only [takeMany?] at h
    split at h
    · cases h
    · next a bs' hfirst =>
      obtain ⟨⟨as', rest'⟩, hrest, heq⟩ := Option.map_eq_some_iff.1 h
      cases heq
      obtain ⟨hlen, hall⟩ := ih hrest
      refine ⟨by rw [List.length_cons, hlen], fun b hb => ?_⟩
      rcases List.mem_cons.1 hb with rfl | hb
      · exact fits_of_take? hfirst
      · exact hall b hb

instance : Streaming (List α) where
  Fits as := IsLength as.length ∧ ∀ a ∈ as, Fits a
  take?_put {as} has rest := by
    simp only [put, List.append_assoc]
    exact bind_of_some (takeNat?_length has.1 _) (takeMany?_flatMap has.2 rest)
  fits_of_take? {bs as rest} h := by
    obtain ⟨⟨n, _⟩, hn, h⟩ := Option.bind_eq_some_iff.1 h
    obtain ⟨hlen, hall⟩ := fits_of_takeMany? h
    exact ⟨hlen ▸ isLength_of_takeNat? hn, hall⟩

end

/-! ## Maps -/

instance : Streaming TextMap where
  Fits m := Fits m.entries
  take?_put {m} hm rest := by
    show (take? (put m.entries ++ rest)).map (fun r => (TextMap.ofList r.1, r.2)) = _
    rw [take?_put hm, Option.map_some, TextMap.ofList_entries]
  fits_of_take? {bs m rest} h := by
    obtain ⟨⟨es, _⟩, hread, heq⟩ := Option.map_eq_some_iff.1 h
    cases heq
    obtain ⟨hlen, hall⟩ := fits_of_take? hread
    exact ⟨Nat.lt_of_le_of_lt (TextMap.length_entries_ofList_le es) hlen,
      fun e he => hall e (TextMap.entries_ofList_subset es he)⟩

/-! ## Records -/

theorem put_wireTransition (w : WireTransition) (rest : Octets) :
    put w ++ rest =
      put w.source ++ (put w.target ++ (put w.trigger ++ (put w.status ++ (put w.errorMessage ++
        (put w.monotonic ++ (put w.wall ++ rest)))))) := by
  show (put w.source ++ put w.target ++ put w.trigger ++ put w.status ++ put w.errorMessage ++
    put w.monotonic ++ put w.wall) ++ rest = _
  simp only [List.append_assoc]

instance : Streaming WireTransition where
  Fits w := Fits w.trigger ∧ Fits w.errorMessage ∧ Fits w.wall
  take?_put {w} hw rest := by
    obtain ⟨htrigger, hmessage, hwall⟩ := hw
    rw [put_wireTransition]
    refine bind_of_some (take?_put (a := w.source) trivial _) ?_
    refine bind_of_some (take?_put (a := w.target) trivial _) ?_
    refine bind_of_some (take?_put htrigger _) ?_
    refine bind_of_some (take?_put (a := w.status) trivial _) ?_
    refine bind_of_some (take?_put hmessage _) ?_
    refine bind_of_some (take?_put (a := w.monotonic) trivial _) ?_
    refine bind_of_some (take?_put hwall _) ?_
    rfl
  fits_of_take? {bs w rest} h := by
    obtain ⟨_, -, h⟩ := Option.bind_eq_some_iff.1 h
    obtain ⟨_, -, h⟩ := Option.bind_eq_some_iff.1 h
    obtain ⟨_, htrigger, h⟩ := Option.bind_eq_some_iff.1 h
    obtain ⟨_, -, h⟩ := Option.bind_eq_some_iff.1 h
    obtain ⟨_, hmessage, h⟩ := Option.bind_eq_some_iff.1 h
    obtain ⟨_, -, h⟩ := Option.bind_eq_some_iff.1 h
    obtain ⟨_, hwall, h⟩ := Option.bind_eq_some_iff.1 h
    cases h
    exact ⟨fits_of_take? htrigger, fits_of_take? hmessage, fits_of_take? hwall⟩

theorem put_wireSnapshot (w : WireSnapshot) (rest : Octets) :
    put w ++ rest =
      put w.format ++ (put w.version ++ (put w.state ++ (put w.prevState ++ (put w.reason ++
        (put w.monotonic ++ (put w.wall ++ (put w.id ++ (put w.parentId ++ (put w.instanceId ++
          (put w.sourceModule ++ (put w.attempts ++ (put w.history ++ (put w.context ++
            (put w.metadata ++ rest)))))))))))))) := by
  show (put w.format ++ put w.version ++ put w.state ++ put w.prevState ++ put w.reason ++
    put w.monotonic ++ put w.wall ++ put w.id ++ put w.parentId ++ put w.instanceId ++
    put w.sourceModule ++ put w.attempts ++ put w.history ++ put w.context ++ put w.metadata) ++
      rest = _
  simp only [List.append_assoc]

instance : Streaming WireSnapshot where
  Fits w := Fits w.reason ∧ Fits w.wall ∧ Fits w.id ∧ Fits w.parentId ∧ Fits w.instanceId ∧
    Fits w.sourceModule ∧ Fits w.history ∧ Fits w.context ∧ Fits w.metadata
  take?_put {w} hw rest := by
    obtain ⟨hreason, hwall, hid, hparent, hinstance, hsource, hhistory, hcontext, hmetadata⟩ := hw
    have hprev : Fits w.prevState := fun _ _ => trivial
    rw [put_wireSnapshot]
    refine bind_of_some (take?_put (a := w.format) trivial _) ?_
    refine bind_of_some (take?_put (a := w.version) trivial _) ?_
    refine bind_of_some (take?_put (a := w.state) trivial _) ?_
    refine bind_of_some (take?_put hprev _) ?_
    refine bind_of_some (take?_put hreason _) ?_
    refine bind_of_some (take?_put (a := w.monotonic) trivial _) ?_
    refine bind_of_some (take?_put hwall _) ?_
    refine bind_of_some (take?_put hid _) ?_
    refine bind_of_some (take?_put hparent _) ?_
    refine bind_of_some (take?_put hinstance _) ?_
    refine bind_of_some (take?_put hsource _) ?_
    refine bind_of_some (take?_put (a := w.attempts) trivial _) ?_
    refine bind_of_some (take?_put hhistory _) ?_
    refine bind_of_some (take?_put hcontext _) ?_
    refine bind_of_some (take?_put hmetadata _) ?_
    rfl
  fits_of_take? {bs w rest} h := by
    obtain ⟨_, -, h⟩ := Option.bind_eq_some_iff.1 h
    obtain ⟨_, -, h⟩ := Option.bind_eq_some_iff.1 h
    obtain ⟨_, -, h⟩ := Option.bind_eq_some_iff.1 h
    obtain ⟨_, -, h⟩ := Option.bind_eq_some_iff.1 h
    obtain ⟨_, hreason, h⟩ := Option.bind_eq_some_iff.1 h
    obtain ⟨_, -, h⟩ := Option.bind_eq_some_iff.1 h
    obtain ⟨_, hwall, h⟩ := Option.bind_eq_some_iff.1 h
    obtain ⟨_, hid, h⟩ := Option.bind_eq_some_iff.1 h
    obtain ⟨_, hparent, h⟩ := Option.bind_eq_some_iff.1 h
    obtain ⟨_, hinstance, h⟩ := Option.bind_eq_some_iff.1 h
    obtain ⟨_, hsource, h⟩ := Option.bind_eq_some_iff.1 h
    obtain ⟨_, -, h⟩ := Option.bind_eq_some_iff.1 h
    obtain ⟨_, hhistory, h⟩ := Option.bind_eq_some_iff.1 h
    obtain ⟨_, hcontext, h⟩ := Option.bind_eq_some_iff.1 h
    obtain ⟨_, hmetadata, h⟩ := Option.bind_eq_some_iff.1 h
    cases h
    exact ⟨fits_of_take? hreason, fits_of_take? hwall, fits_of_take? hid, fits_of_take? hparent,
      fits_of_take? hinstance, fits_of_take? hsource, fits_of_take? hhistory,
      fits_of_take? hcontext, fits_of_take? hmetadata⟩

theorem put_wall_carried (t : WallTime) : put t.carried = put t :=
  congrArg (put : String → Octets) (Timestamp.write_carried t)

theorem put_wireTransition_carried (w : WireTransition) : put w.carried = put w := by
  refine (List.append_left_inj []).1 ?_
  rw [put_wireTransition, put_wireTransition]
  simp only [WireTransition.carried, put_wall_carried]

/-- A record is framed like the one that is carried over. -/
theorem put_wireSnapshot_carried (w : WireSnapshot) : put w.carried = put w := by
  have steps : put (w.history.map WireTransition.carried) = put w.history := by
    show putNat 8 (w.history.map _).length ++ (w.history.map _).flatMap put =
      putNat 8 w.history.length ++ w.history.flatMap put
    rw [List.length_map, List.flatMap_map, funext put_wireTransition_carried]
  refine (List.append_left_inj []).1 ?_
  rw [put_wireSnapshot, put_wireSnapshot]
  simp only [WireSnapshot.carried, put_wall_carried, steps]

/-- The format alone is read from the front of a record. -/
theorem take?_format (w : WireSnapshot) :
    ∃ rest, take? (put w) = some (w.format, rest) := by
  have hfront := put_wireSnapshot w []
  rw [List.append_nil] at hfront
  rw [hfront]
  exact ⟨_, take?_put (a := w.format) trivial _⟩

end Frame

/-! ## Snapshots -/

open AgentState.Frame Streaming

namespace Snapshot

/-- The texts in a snapshot. -/
def texts (s : Snapshot) : List String :=
  [s.reason, s.id, s.instanceId, s.sourceModule] ++ s.parentId.toList ++
    s.history.transitions.flatMap (fun t => [t.trigger, t.errorMessage]) ++
    (s.context.entries ++ s.metadata.entries).flatMap (fun e => [e.1, e.2])

/-- Whether the frame of a snapshot can give all its lengths: those of its
lists in entries and those of its texts in octets.  It can wherever lengths
are numbers of 64 bits. -/
def FitsFrame (s : Snapshot) : Prop :=
  (∀ n ∈ [s.history.length, s.context.entries.length, s.metadata.entries.length], IsLength n) ∧
    ∀ t ∈ s.texts, IsLength (octetsOf t).length

instance (s : Snapshot) : Decidable s.FitsFrame :=
  inferInstanceAs (Decidable (_ ∧ _))

theorem fits_ofSnapshot (s : Snapshot) :
    Fits (WireSnapshot.ofSnapshot s) ↔ s.FitsFrame ∧ ∀ t ∈ s.walls, t.IsRegular := by
  simp only [FitsFrame, texts, walls, History.walls, List.forall_mem_append,
    List.forall_mem_flatMap, List.forall_mem_cons, Fits, WireSnapshot.ofSnapshot,
    WireTransition.ofTransition, List.forall_mem_map, List.length_map, History.length,
    Option.mem_def, Option.mem_toList, Option.some.injEq, forall_eq', List.not_mem_nil,
    false_imp_iff, implies_true, and_true, forall_and]
  tauto

/-- A snapshot that was read from a frame fits one, if the identifiers that
it was given do, and in it every leap second ends a minute. -/
theorem fitsFrame_toSnapshot {w : WireSnapshot} (h : Fits w) :
    (w.toSnapshot ⟨"", ""⟩).FitsFrame ∧ ∀ t ∈ (w.toSnapshot ⟨"", ""⟩).walls, t.IsRegular := by
  have hblank : IsLength (octetsOf "").length := by decide
  have hdefault : IsLength (octetsOf defaultSource).length := by decide
  have hgiven : ∀ {t : Option String} {other : String}, Fits t →
      IsLength (octetsOf other).length → IsLength (octetsOf (t.getD other)).length := by
    intro t other ht hother
    cases t with
    | none => exact hother
    | some t => exact ht t rfl
  obtain ⟨hreason, hwall, hid, hparent, hinstance, hsource, hhistory, hcontext, hmetadata⟩ := h
  simp only [FitsFrame, texts, walls, History.walls, List.forall_mem_append,
    List.forall_mem_flatMap, List.forall_mem_cons, WireSnapshot.toSnapshot,
    WireTransition.toTransition, List.forall_mem_map, List.length_map, History.length,
    Option.mem_toList, List.not_mem_nil, false_imp_iff, implies_true, and_true]
  exact ⟨⟨⟨hhistory.1, hcontext.1, hmetadata.1⟩,
    ⟨⟨⟨hreason, hgiven hid hblank, hgiven hinstance hblank, hgiven hsource hdefault⟩, hparent⟩,
      fun t ht => ⟨(hhistory.2 t ht).1, (hhistory.2 t ht).2.1⟩⟩, hcontext.2, hmetadata.2⟩,
    hwall, fun t ht => (hhistory.2 t ht).2.2⟩

/-- Nothing that is carried over has a length. -/
theorem fitsFrame_carried (s : Snapshot) : s.carried.FitsFrame ↔ s.FitsFrame := by
  simp only [FitsFrame, texts, carried, History.carried, History.length, List.length_map,
    List.flatMap_map, Transition.carried]

/-- The order of the entries does not matter to a frame. -/
theorem fitsFrame_of_perm {s : Snapshot} {context metadata : TextMap}
    (hcontext : context.entries.Perm s.context.entries)
    (hmetadata : metadata.entries.Perm s.metadata.entries) :
    ({ s with context, metadata } : Snapshot).FitsFrame ↔ s.FitsFrame := by
  have hentries := (hcontext.append hmetadata).flatMap_right fun e => [e.1, e.2]
  have htexts : ({ s with context, metadata } : Snapshot).texts.Perm s.texts :=
    hentries.append_left _
  simp only [FitsFrame, hcontext.length_eq, hmetadata.length_eq, htexts.mem_iff]

end Snapshot

namespace Encoding

/-- A record of the current format is read back from its frame if it
fits. -/
theorem decodeRecord_put {w : WireSnapshot} (hformat : w.format = formatVersion) (h : Fits w) :
    Encoding.binary.decodeRecord (put w) = .ok w := by
  obtain ⟨rest, hfront⟩ := take?_format w
  have hread := take?_put h []
  rw [List.append_nil] at hread
  have hfirst : binaryReading.format? (put w) = some formatVersion := by
    simp only [binaryReading, hfront, Option.map_some, hformat]
  have hwhole : binaryReading.record? (put w) = some w := by
    simp only [binaryReading, hread, Option.map_some]
  rw [decodeRecord, reading, hfirst, hwhole]
  rfl

/-- A record is decoded only if it was read. -/
theorem record?_of_decodeRecord {e : Encoding} {bs : Octets} {w : WireSnapshot}
    (h : e.decodeRecord bs = .ok w) : e.reading.record? bs = some w := by
  unfold decodeRecord at h
  simp only [bind, Except.bind] at h
  split at h
  · cases h
  · split at h
    · cases h
    · cases hrecord : e.reading.record? bs with
      | none => rw [hrecord] at h; cases h
      | some w' => rw [hrecord] at h; cases h; rfl

/-- A frame that is decoded holds a record that fits. -/
theorem fits_of_decodeRecord {bs : Octets} {w : WireSnapshot}
    (h : Encoding.binary.decodeRecord bs = .ok w) : Fits w := by
  have hrecord := record?_of_decodeRecord h
  simp only [reading, binaryReading] at hrecord
  obtain ⟨⟨w', rest⟩, hread, heq⟩ := Option.map_eq_some_iff.1 hrecord
  cases heq
  exact fits_of_take? hread

/-- A snapshot is framed like the one that is carried over. -/
theorem encode_carried (s : Snapshot) :
    Encoding.binary.encode s.carried = Encoding.binary.encode s := by
  show put (WireSnapshot.ofSnapshot s.carried) = put (WireSnapshot.ofSnapshot s)
  rw [WireSnapshot.ofSnapshot_carried, put_wireSnapshot_carried]

/-- The record that a frame of a snapshot holds, and that it fits. -/
theorem fits_carried {s : Snapshot} (fits : s.FitsFrame) :
    Fits (WireSnapshot.ofSnapshot s.carried) :=
  (Snapshot.fits_ofSnapshot _).2
    ⟨(Snapshot.fitsFrame_carried s).2 fits, s.isRegular_of_mem_carried⟩

/-- What is read back of a snapshot from its frame, if it fits one. -/
theorem decode_encode_binary {s : Snapshot} (h : s.FitsFrame) (ids : FreshIds) :
    Encoding.binary.decode ids (Encoding.binary.encode s) = .ok s.carried := by
  have hrecord := decodeRecord_put rfl (fits_carried h)
  rw [← encode_carried, decode, encode, encodeRecord, hrecord, Except.map,
    WireSnapshot.toSnapshot_ofSnapshot]

/-- A snapshot that is read from octets fits a frame, and in it every leap
second ends a minute. -/
theorem fitsFrame_of_decode {bs : Octets} {s : Snapshot}
    (h : Encoding.binary.decode ⟨"", ""⟩ bs = .ok s) :
    s.FitsFrame ∧ ∀ t ∈ s.walls, t.IsRegular := by
  unfold decode at h
  cases hrecord : Encoding.binary.decodeRecord bs with
  | error err => rw [hrecord] at h; cases h
  | ok w =>
    rw [hrecord] at h
    rw [← Except.ok.inj h]
    exact Snapshot.fitsFrame_toSnapshot (fits_of_decodeRecord hrecord)

/-- What is read back of a snapshot from its frame, whatever the order in which
the entries of its maps are written: it is the order in which they are read
back, and what is found under each key is the same.  If the frame can give
every length, the snapshot is read back carried over, so the snapshot itself
exactly if also every leap second in it ends a minute.  Without that condition
on the lengths it is not read back at all. -/
theorem decode_frame (s : Snapshot) {context metadata : TextMap}
    (hcontext : context.entries.Perm s.context.entries)
    (hmetadata : metadata.entries.Perm s.metadata.entries) :
    let back := fun ids => Encoding.binary.decode ids
      (Encoding.binary.encode { s with context, metadata })
    (s.FitsFrame ↔ ∀ ids, back ids = .ok { s.carried with context, metadata }) ∧
      ((s.FitsFrame ∧ ∀ t ∈ s.walls, t.IsRegular) ↔
        ∀ ids, back ids = .ok { s with context, metadata }) ∧
      (∀ k, context.get? k = s.context.get? k) ∧ (∀ k, metadata.get? k = s.metadata.get? k) := by
  intro back
  have hperm := Snapshot.fitsFrame_of_perm hcontext hmetadata
  have hcarried (h : s.FitsFrame) (ids : FreshIds) :
      back ids = .ok { s.carried with context, metadata } :=
    decode_encode_binary (hperm.2 h) ids
  refine ⟨⟨hcarried, fun h => ?_⟩, ⟨?_, fun h => ?_⟩, ?_, ?_⟩
  · have hfits := (fitsFrame_of_decode (h ⟨"", ""⟩)).1
    exact hperm.1 ((Snapshot.fitsFrame_carried { s with context, metadata }).1 hfits)
  · rintro ⟨h, hregular⟩ ids
    rw [hcarried h ids]
    exact (Snapshot.ok_carried_iff (s := { s with context, metadata })).2 hregular
  · obtain ⟨hfits, hregular⟩ := fitsFrame_of_decode (h ⟨"", ""⟩)
    exact ⟨hperm.1 hfits, hregular⟩
  · intro k
    exact TextMap.get?_of_perm hcontext k
  · intro k
    exact TextMap.get?_of_perm hmetadata k

/-- A leap second after the year 9999, the last version, texts beyond ASCII
and empty ones, with the two entries of the metadata in the other order. -/
theorem decode_frame_swapped :
    let leap : WallTime := ⟨253402300859, 1000000001, by decide, by decide⟩
    let s : Snapshot :=
      { Snapshot.fresh ⟨"", ⟨0, leap⟩⟩ "é" .error "" with
        version := 18446744073709551615
        metadata := ⟨[("ß", ""), ("b", "2")], by decide⟩ }
    let swapped : TextMap := ⟨[("b", "2"), ("ß", "")], by decide⟩
    s.context.entries.Perm s.context.entries ∧ swapped.entries.Perm s.metadata.entries ∧
      (s.FitsFrame ∧ ∀ t ∈ s.walls, t.IsRegular) ∧
      Encoding.binary.decode ⟨"x", "y"⟩ (Encoding.binary.encode { s with metadata := swapped }) =
        .ok { s with metadata := swapped } ∧
      swapped.get? "ß" = s.metadata.get? "ß" := by
  intro leap s swapped
  have hsame : s.context.entries.Perm s.context.entries := .refl _
  have hswap : swapped.entries.Perm s.metadata.entries := List.Perm.swap _ _ _
  have hfits : s.FitsFrame ∧ ∀ t ∈ s.walls, t.IsRegular := by decide
  obtain ⟨_, hback, _, hmetadata⟩ := decode_frame s hsame hswap
  exact ⟨hsame, hswap, hfits, hback.1 hfits ⟨"x", "y"⟩, hmetadata "ß"⟩

/-- A leap second inside a minute comes back from a frame as the second behind
it. -/
theorem decode_frame_stray :
    let stray : WallTime := ⟨1704110404, 1500000000, by decide, by decide⟩
    let behind : WallTime := ⟨1704110405, 500000000, by decide, by decide⟩
    let s := Snapshot.fresh ⟨"s", ⟨1, stray⟩⟩ "run" .idle ""
    s.FitsFrame ∧
      Encoding.binary.decode ⟨"x", "y"⟩ (Encoding.binary.encode s) = .ok { s with wall := behind } ∧
      Encoding.binary.decode ⟨"x", "y"⟩ (Encoding.binary.encode s) ≠ .ok s := by
  intro stray behind s
  have hfits : s.FitsFrame := by decide
  have hcarried : s.carried = { s with wall := behind } := by decide
  have hother : s.carried ≠ s := by decide
  rw [decode_encode_binary hfits, ← hcarried]
  exact ⟨hfits, rfl, fun same => hother (Except.ok.inj same)⟩

end Encoding

end AgentState
