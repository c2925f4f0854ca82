/-
AgentState.Proofs.Json.Spelling — the texts of a document.

A printed document has the white space of a layout.  Others may write the
same tokens with as much of it as they like, in front, behind and between;
only a word needs something behind it that ends it.  Octets are read as a
document exactly when they are such a text of it.

* `Scanner.Spells` — octets that spell tokens, `Value.Text` — octets that
  spell a document.
* `Scanner.run?_spells` — the scanner finds the tokens that are spelled;
  `Scanner.spellsFrom_of_run?` — and no others.
* `Builder.step_sound` — the builder keeps the tokens that it has taken.
* `Value.read?_eq_some_iff` — the texts of a document are what is read as it.
-/
import AgentState.Proofs.Json.Builder

namespace AgentState.Json

open Octet

/-! ## Tokens -/

namespace Scanner

/-- Octets that spell tokens, with any white space before each of them and
behind the last. -/
inductive Spells : List Token → Octets → Prop where
  | done : Spells [] []
  | space {ts : List Token} {bs : Octets} {b : UInt8} (blank : isSpace b = true)
      (rest : Spells ts bs) : Spells ts (b :: bs)
  | mark {ts : List Token} {bs : Octets} {t : Token} {b : UInt8} (mark : punctuation? b = some t)
      (rest : Spells ts bs) : Spells (t :: ts) (b :: bs)
  | string {ts : List Token} {bs raw : Octets} (inside : Inside raw) (rest : Spells ts bs) :
      Spells (.string raw :: ts) (quoted raw ++ bs)
  | word {ts : List Token} {bs letters : Octets} (some : letters ≠ [])
      (whole : ∀ b ∈ letters, endsWord b = false) (ends : WordEnd bs) (rest : Spells ts bs) :
      Spells (.word letters :: ts) (letters ++ bs)

/-- The scanner finds the tokens that are spelled, behind any others. -/
theorem run?_spells {ts : List Token} {bs : Octets} (spells : Spells ts bs)
    (tokens : List Token) : run? ⟨tokens, .between⟩ bs = some (tokens.reverse ++ ts) := by
  induction spells generalizing tokens with
  | done => simp [run?, finish?]
  | @space ts bs b blank rest ih =>
    rw [← ih tokens]
    exact run?_blank (show ∀ c ∈ [b], isSpace c = true by simpa using blank) bs
  | mark mark rest ih =>
    rw [run?_punctuation mark, ih]
    simp
  | string inside rest ih =>
    rw [run?_quoted inside, ih]
    simp
  | word some whole ends rest ih =>
    rw [run?_word some whole ends, ih]
    simp

end Scanner

/-! ## Documents -/

namespace Value

/-- Octets that spell a document, with any white space. -/
structure Text (v : Value) (bs : Octets) : Prop where
  spelled : v.Spelled
  spells : Scanner.Spells v.tokens bs

/-- A document is read from any of its texts. -/
theorem read?_of_text {v : Value} {bs : Octets} (text : v.Text bs) : read? bs = some v := by
  have tokens : tokens? bs = some v.tokens := Scanner.run?_spells text.spells []
  rw [read?, tokens, Option.bind_some]
  exact ofTokens?_tokens text.spelled

end Value

/-! ## What is scanned is spelled -/

namespace Scanner

/-- A mode in the midst of a string. -/
def Mode.Midst : Mode → Prop
  | .between | .word _ => False
  | .string _ | .escape _ | .code _ _ => True

/-- What a mode has taken. -/
def Mode.taken : Mode → Octets
  | .between => []
  | .word taken | .string taken | .escape taken | .code taken _ => taken

/-- A mode with other octets taken. -/
def Mode.renew : Mode → Octets → Mode
  | .between, _ => .between
  | .word _, taken => .word taken
  | .string _, taken => .string taken
  | .escape _, taken => .escape taken
  | .code _ left, taken => .code taken left

/-- Octets that lead from the midst of a string to where it can be closed. -/
def Leads (mode : Mode) (inside : Octets) : Prop :=
  ∀ tokens taken, inside.foldlM step ⟨tokens, mode.renew taken⟩ =
    some ⟨tokens, .string (inside.reverse ++ taken)⟩

theorem Mode.cases (mode : Mode) :
    mode = .between ∨ (∃ taken, mode = .word taken) ∨ mode.Midst := by
  cases mode with
  | between => exact .inl rfl
  | word taken => exact .inr (.inl ⟨taken, rfl⟩)
  | string | escape | code => exact .inr (.inr trivial)

theorem Leads.cons {mode mode' : Mode} {b : UInt8} {inside : Octets} (h : Leads mode' inside)
    (first : ∀ tokens taken, step ⟨tokens, mode.renew taken⟩ b =
      some ⟨tokens, mode'.renew (b :: taken)⟩) : Leads mode (b :: inside) := by
  intro tokens taken
  rw [List.foldlM_cons, first]
  simpa using h tokens (b :: taken)

/-- What octets spell from any mode on. -/
inductive SpellsFrom : Mode → List Token → Octets → Prop where
  | between {ts : List Token} {bs : Octets} (rest : Spells ts bs) : SpellsFrom .between ts bs
  | word {ts : List Token} {bs : Octets} (letters taken : Octets)
      (whole : ∀ b ∈ letters, endsWord b = false) (ends : WordEnd bs) (rest : Spells ts bs) :
      SpellsFrom (.word taken) (.word (taken.reverse ++ letters) :: ts) (letters ++ bs)
  | string {ts : List Token} {bs : Octets} {mode : Mode} (inside : Octets) (midst : mode.Midst)
      (leads : Leads mode inside) (rest : Spells ts bs) :
      SpellsFrom mode (.string (mode.taken.reverse ++ inside) :: ts) (inside ++ quote :: bs)

/-- An octet outside of words and strings, when what is behind it is
spelled. -/
theorem spells_free {bs : Octets} {found : List Token}
    (behind : ∀ tokens mode, run? ⟨tokens, mode⟩ bs = some found →
      ∃ ts, found = tokens.reverse ++ ts ∧ SpellsFrom mode ts bs)
    {tokens : List Token} {b : UInt8} (ran : run? (free tokens b) bs = some found) :
    ∃ ts, found = tokens.reverse ++ ts ∧ Spells ts (b :: bs) := by
  unfold free at ran
  split at ran
  · next space =>
    obtain ⟨ts, rfl, spelled⟩ := behind _ _ ran
    cases spelled with
    | between rest => exact ⟨ts, rfl, .space space rest⟩
    | string _ midst => cases midst
  · next solid =>
    split at ran
    · next t mark =>
      obtain ⟨ts, rfl, spelled⟩ := behind _ _ ran
      cases spelled with
      | between rest => exact ⟨t :: ts, by simp, .mark mark rest⟩
      | string _ midst => cases midst
    · next unmarked =>
      split at ran
      · next quoted =>
        subst quoted
        obtain ⟨ts, rfl, spelled⟩ := behind _ _ ran
        cases spelled with
        | string inside _ leads rest =>
          exact ⟨_, rfl, by simpa [Json.quoted, Mode.taken] using Spells.string leads rest⟩
      · next unquoted =>
        obtain ⟨ts, rfl, spelled⟩ := behind _ _ ran
        cases spelled with
        | word letters _ whole ends rest =>
          have first : endsWord b = false := by
            simp [endsWord, solid, unmarked, unquoted]
          exact ⟨_, rfl,
            .word (List.cons_ne_nil b letters) (by simpa [first] using whole) ends rest⟩
        | string _ midst => cases midst

/-- An octet in the midst of a string closes it or leads on in it. -/
theorem step_midst {tokens : List Token} {mode : Mode} {b : UInt8} {s : Scanner}
    (midst : mode.Midst) (stepped : step ⟨tokens, mode⟩ b = some s) :
    (∃ taken, mode = .string taken ∧ b = quote ∧
        s = ⟨.string taken.reverse :: tokens, .between⟩) ∨
      ∃ mode', s = ⟨tokens, mode'⟩ ∧ mode'.Midst ∧ mode'.taken = b :: mode.taken ∧
        ∀ tokens taken, step ⟨tokens, mode.renew taken⟩ b =
          some ⟨tokens, mode'.renew (b :: taken)⟩ := by
  cases mode with
  | between | word => cases midst
  | string taken =>
    simp only [step] at stepped
    split at stepped
    · next closed =>
      cases stepped
      exact .inl ⟨taken, rfl, closed, rfl⟩
    · next inner =>
      split at stepped
      · next slash =>
        subst slash
        cases stepped
        exact .inr ⟨_, rfl, trivial, rfl, fun _ _ => step_backslash⟩
      · next plain =>
        split at stepped
        · cases stepped
        · next high =>
          cases stepped
          exact .inr ⟨_, rfl, trivial, rfl, fun _ _ => step_plain inner plain high⟩
  | escape taken =>
    simp only [step] at stepped
    split at stepped
    · next code =>
      cases stepped
      exact .inr ⟨_, rfl, trivial, rfl, fun _ _ => by simp [step, Mode.renew, code]⟩
    · next other =>
      split at stepped
      · next letter =>
        cases stepped
        exact .inr ⟨_, rfl, trivial, rfl, fun _ _ => step_letter other letter⟩
      · cases stepped
  | code taken left =>
    simp only [step] at stepped
    split at stepped
    · cases stepped
    · next hex =>
      split at stepped
      · next last =>
        cases stepped
        exact .inr ⟨_, rfl, trivial, rfl, fun _ _ => by simp [step, Mode.renew, hex, last]⟩
      · next more =>
        cases stepped
        exact .inr ⟨_, rfl, trivial, rfl, fun _ _ => by simp [step, Mode.renew, hex, more]⟩

/-- What is scanned is spelled, from any mode on. -/
theorem spellsFrom_of_run? {bs : Octets} {found : List Token} :
    ∀ tokens mode, run? ⟨tokens, mode⟩ bs = some found →
      ∃ ts, found = tokens.reverse ++ ts ∧ SpellsFrom mode ts bs := by
  -- The mode says which token the octets before these began, so it varies.
  induction bs with
  | nil =>
    intro tokens mode ran
    have ended : finish? ⟨tokens, mode⟩ = some found := ran
    cases mode with
    | between =>
      cases ended
      exact ⟨[], by simp, .between .done⟩
    | word taken =>
      cases ended
      exact ⟨_, by simp, .word [] taken (by simp) (by simp [WordEnd]) .done⟩
    | string | escape | code => cases ended
  | cons b bs behind =>
    intro tokens mode ran
    cases stepped : step ⟨tokens, mode⟩ b with
    | none =>
      rw [run?, List.foldlM_cons, stepped] at ran
      cases ran
    | some s =>
      rw [run?_cons stepped] at ran
      rcases mode.cases with rfl | ⟨taken, rfl⟩ | midst
      · cases stepped
        obtain ⟨ts, rfl, spelled⟩ := spells_free behind ran
        exact ⟨ts, rfl, .between spelled⟩
      · simp only [step] at stepped
        split at stepped
        · next ends =>
          cases stepped
          obtain ⟨ts, rfl, spelled⟩ := spells_free behind ran
          exact ⟨_, by simp, .word [] taken (by simp) (wordEnd_cons ends) spelled⟩
        · next inner =>
          cases stepped
          obtain ⟨ts, rfl, spelled⟩ := behind _ _ ran
          cases spelled with
          | word letters _ whole ends rest =>
            exact ⟨_, by simp, .word (b :: letters) taken (by simpa [inner] using whole) ends rest⟩
          | string _ midst => cases midst
      · rcases step_midst midst stepped with
          ⟨taken, rfl, rfl, rfl⟩ | ⟨mode', rfl, midst', more, first⟩
        · obtain ⟨ts, rfl, spelled⟩ := behind _ _ ran
          cases spelled with
          | between rest =>
            exact ⟨_, by simp [Mode.taken], .string [] midst (fun _ _ => rfl) rest⟩
          | string _ midst => cases midst
        · obtain ⟨ts, rfl, spelled⟩ := behind _ _ ran
          cases spelled with
          | between | word => cases midst'
          | string inside _ leads rest =>
            exact ⟨_, by simp [more], .string (b :: inside) midst (leads.cons first) rest⟩

end Scanner

/-! ## What is built is of its tokens -/

/-- Items before another one. -/
def itemsBefore (items : List Value) : List Token := items.flatMap (fun v => v.tokens ++ [.comma])

/-- Members before another one. -/
def membersBefore (members : List (Octets × Value)) : List Token :=
  members.flatMap (fun m => .string m.1 :: .colon :: (m.2.tokens ++ [.comma]))

theorem itemTokens_concat (items : List Value) (v : Value) :
    itemTokens (items ++ [v]) = .comma :: (itemsBefore items ++ v.tokens) := by
  induction items with
  | nil => simp [itemTokens, itemsBefore]
  | cons w items ih => simp [itemTokens, itemsBefore, ih]

theorem tokens_array_concat (items : List Value) (v : Value) :
    (Value.array (items ++ [v])).tokens =
      .openArray :: (itemsBefore items ++ v.tokens ++ [.closeArray]) := by
  cases items with
  | nil => simp [Value.tokens, itemTokens, itemsBefore]
  | cons w items => simp [Value.tokens, itemTokens_concat, itemsBefore]

theorem memberTokens_concat (members : List (Octets × Value)) (k : Octets) (v : Value) :
    memberTokens (members ++ [(k, v)]) =
      .comma :: (membersBefore members ++ .string k :: .colon :: v.tokens) := by
  induction members with
  | nil => simp [memberTokens, membersBefore]
  | cons m members ih => simp [memberTokens, membersBefore, ih]

theorem tokens_object_concat (members : List (Octets × Value)) (k : Octets) (v : Value) :
    (Value.object (members ++ [(k, v)])).tokens =
      .openObject :: (membersBefore members ++ .string k :: .colon :: v.tokens ++
        [.closeObject]) := by
  cases members with
  | nil => simp [Value.tokens, memberTokens, membersBefore]
  | cons m members => simp [Value.tokens, memberTokens_concat, membersBefore]

/-- A token whose letters are as a scanner leaves them. -/
def Token.Sound : Token → Prop
  | .string raw => Scanner.Inside raw
  | .word letters => ∀ b ∈ letters, Scanner.endsWord b = false
  | _ => True

theorem Scanner.Spells.sound {ts : List Token} {bs : Octets} (h : Spells ts bs) :
    ∀ t ∈ ts, t.Sound := by
  induction h with
  | done => simp
  | space _ _ ih => exact ih
  | mark mark _ ih =>
    refine List.forall_mem_cons.2 ⟨?_, ih⟩
    unfold punctuation? at mark
    repeat' split at mark
    all_goals cases mark <;> trivial
  | string inside _ ih => exact List.forall_mem_cons.2 ⟨inside, ih⟩
  | word _ whole _ _ ih => exact List.forall_mem_cons.2 ⟨whole, ih⟩

namespace Builder

/-- The tokens of containers that are still open. -/
def opened : List Frame → List Token
  | [] => []
  | .array items :: frames => opened frames ++ .openArray :: itemsBefore items.reverse
  | .member members k :: frames =>
      opened frames ++ .openObject :: (membersBefore members.reverse ++ [.string k, .colon])

/-- The tokens that a builder has taken. -/
def seen : Builder → List Token
  | .value frames => opened frames
  | .firstItem frames => opened frames ++ [.openArray]
  | .firstKey frames => opened frames ++ [.openObject]
  | .key members frames => opened frames ++ .openObject :: membersBefore members.reverse
  | .colon members k frames =>
      opened frames ++ .openObject :: (membersBefore members.reverse ++ [.string k])
  | .complete v frames => opened frames ++ v.tokens

/-- Members that are spelled well. -/
def MembersSound (members : List (Octets × Value)) : Prop :=
  ∀ m ∈ members, Scanner.Inside m.1 ∧ m.2.Spelled

theorem MembersSound.cons {members : List (Octets × Value)} (h : MembersSound members)
    {k : Octets} (inside : Scanner.Inside k) {v : Value} (spelled : v.Spelled) :
    MembersSound ((k, v) :: members) :=
  List.forall_mem_cons.2 ⟨⟨inside, spelled⟩, h⟩

/-- A container that holds what is spelled well. -/
def FrameSound : Frame → Prop
  | .array items => ∀ v ∈ items, v.Spelled
  | .member members k => MembersSound members ∧ Scanner.Inside k

/-- A builder that holds what is spelled well. -/
def Sound : Builder → Prop
  | .value frames | .firstItem frames | .firstKey frames => ∀ f ∈ frames, FrameSound f
  | .key members frames => MembersSound members ∧ ∀ f ∈ frames, FrameSound f
  | .colon members k frames =>
      MembersSound members ∧ Scanner.Inside k ∧ ∀ f ∈ frames, FrameSound f
  | .complete v frames => v.Spelled ∧ ∀ f ∈ frames, FrameSound f

/-- The document of a word is spelled with it. -/
theorem scalar?_spelled {letters : Octets} {v : Value} (h : scalar? letters = some v)
    (whole : ∀ b ∈ letters, Scanner.endsWord b = false) :
    v.Spelled ∧ v.tokens = [.word letters] := by
  unfold scalar? at h
  split at h
  · next null => cases h; exact ⟨.null, by rw [null]; rfl⟩
  · split at h
    · next yes => cases h; exact ⟨.bool true, by rw [yes]; rfl⟩
    · split at h
      · next no => cases h; exact ⟨.bool false, by rw [no]; rfl⟩
      · split at h
        · next number => cases h; exact ⟨.number ⟨number, whole⟩, by simp [Value.tokens]⟩
        · cases h

/-- The first token of a value. -/
theorem begin?_sound {t : Token} {frames : List Frame} {s : Builder} (h : begin? t frames = some s)
    (token : t.Sound) (open' : ∀ f ∈ frames, FrameSound f) :
    s.Sound ∧ s.seen = opened frames ++ [t] := by
  unfold begin? at h
  split at h
  · cases h; exact ⟨open', rfl⟩
  · cases h; exact ⟨open', rfl⟩
  · cases h; exact ⟨⟨.string token, open'⟩, by simp [seen, Value.tokens]⟩
  · obtain ⟨v, scalar, rfl⟩ := Option.map_eq_some_iff.1 h
    obtain ⟨spelled, tokens⟩ := scalar?_spelled scalar token
    exact ⟨⟨spelled, open'⟩, by simp [seen, tokens]⟩
  · cases h

/-- A step adds its token to those that were taken. -/
theorem step_sound {s s' : Builder} {t : Token} (h : s.step t = some s') (token : t.Sound)
    (before : s.Sound) : s'.Sound ∧ s'.seen = s.seen ++ [t] := by
  -- One case for each line of the table; the last four close a value into
  -- the container around it, which is where the concatenations are needed.
  unfold step at h
  split at h
  · exact begin?_sound h token before
  · cases h
    exact ⟨⟨.array (by simp), before⟩, by simp [seen, Value.tokens]⟩
  · have inner := begin?_sound h token (List.forall_mem_cons.2 ⟨by simp [FrameSound], before⟩)
    simpa [seen, opened, itemsBefore] using inner
  · cases h
    exact ⟨⟨.object (by simp) (by simp), before⟩, by simp [seen, Value.tokens]⟩
  · cases h
    exact ⟨⟨by simp [MembersSound], token, before⟩, by simp [seen, membersBefore]⟩
  · cases h
    exact ⟨⟨before.1, token, before.2⟩, by simp [seen]⟩
  · cases h
    exact ⟨List.forall_mem_cons.2 ⟨⟨before.1, before.2.1⟩, before.2.2⟩, by simp [seen, opened]⟩
  · cases h
    obtain ⟨spelled, open'⟩ := before
    obtain ⟨items, rest⟩ := List.forall_mem_cons.1 open'
    exact ⟨List.forall_mem_cons.2 ⟨List.forall_mem_cons.2 ⟨spelled, items⟩, rest⟩,
      by simp [seen, opened, itemsBefore]⟩
  · cases h
    obtain ⟨spelled, open'⟩ := before
    obtain ⟨items, rest⟩ := List.forall_mem_cons.1 open'
    refine ⟨⟨.array ?_, rest⟩, ?_⟩
    · intro w mem
      rcases List.mem_cons.1 (List.mem_reverse.1 mem) with rfl | mem
      · exact spelled
      · exact items w mem
    · simp [seen, opened, tokens_array_concat]
  · cases h
    obtain ⟨spelled, open'⟩ := before
    obtain ⟨⟨members, k⟩, rest⟩ := List.forall_mem_cons.1 open'
    exact ⟨⟨.cons members k spelled, rest⟩, by simp [seen, opened, membersBefore]⟩
  · cases h
    obtain ⟨spelled, open'⟩ := before
    obtain ⟨⟨members, k⟩, rest⟩ := List.forall_mem_cons.1 open'
    have all := MembersSound.cons members k spelled
    refine ⟨⟨.object ?_ ?_, rest⟩, ?_⟩
    · exact fun m mem => (all m (List.mem_reverse.1 mem)).1
    · exact fun m mem => (all m (List.mem_reverse.1 mem)).2
    · simp [seen, opened, tokens_object_concat]
  · cases h

theorem foldlM_sound {ts : List Token} (tokens : ∀ t ∈ ts, t.Sound) {s s' : Builder}
    (before : s.Sound) (h : ts.foldlM step s = some s') : s'.Sound ∧ s'.seen = s.seen ++ ts := by
  induction ts generalizing s with
  | nil =>
    cases h
    exact ⟨before, by simp⟩
  | cons t ts ih =>
    obtain ⟨first, rest⟩ := List.forall_mem_cons.1 tokens
    cases stepped : step s t with
    | none =>
      rw [List.foldlM_cons, stepped] at h
      cases h
    | some s₁ =>
      rw [foldlM_cons_of stepped] at h
      obtain ⟨sound, seen⟩ := step_sound stepped first before
      obtain ⟨sound', seen'⟩ := ih rest sound h
      exact ⟨sound', by rw [seen', seen]; simp⟩

end Builder

namespace Value

/-- A document that is built is built of its tokens. -/
theorem tokens_of_ofTokens? {ts : List Token} (tokens : ∀ t ∈ ts, t.Sound) {v : Value}
    (h : ofTokens? ts = some v) : v.Spelled ∧ v.tokens = ts := by
  obtain ⟨s, built, ended⟩ := Option.bind_eq_some_iff.1 h
  have start : (Builder.value []).Sound := by simp [Builder.Sound]
  obtain ⟨sound, seen⟩ := Builder.foldlM_sound tokens start built
  unfold Builder.finish? at ended
  split at ended
  · cases ended
    exact ⟨sound.1, by simpa [Builder.seen, Builder.opened] using seen⟩
  · cases ended

/-- Octets are read as a document exactly when they spell it. -/
theorem read?_eq_some_iff {bs : Octets} {v : Value} : read? bs = some v ↔ v.Text bs := by
  constructor
  · intro h
    obtain ⟨ts, scanned, built⟩ := Option.bind_eq_some_iff.1 h
    obtain ⟨ts', rfl, spelled⟩ := Scanner.spellsFrom_of_run? [] .between scanned
    cases spelled with
    | between spells =>
      obtain ⟨good, rfl⟩ := tokens_of_ofTokens? spells.sound built
      exact ⟨good, spells⟩
    | string _ midst => cases midst
  · exact read?_of_text

/-- What begins with a brace is an object or nothing. -/
theorem read?_of_brace {blank rest : Octets} {v : Value}
    (space : ∀ b ∈ blank, Scanner.isSpace b = true)
    (found : read? (blank ++ openBrace :: rest) = some v) : ∃ members, v = .object members := by
  have text := read?_eq_some_iff.1 found
  have tokens := Scanner.run?_spells text.spells []
  rw [Scanner.run?_blank space, Scanner.run?_punctuation (t := .openObject) rfl] at tokens
  obtain ⟨more, first, -⟩ := Scanner.spellsFrom_of_run? _ _ tokens
  cases v with
  | object members => exact ⟨members, rfl⟩
  | null => cases first
  | bool b => cases b <;> cases first
  | number lexeme => simp [Value.tokens] at first
  | string raw => simp [Value.tokens] at first
  | array items => cases items <;> simp [Value.tokens] at first

end Value

end AgentState.Json
