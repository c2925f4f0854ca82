/-
AgentState.Proofs.Toml.Lines — documents as lines that say something.

A line may say that a table begins or that a key has a value, in any spelling,
or nothing at all; it may have white space around it and a comment behind it.
What a document says is done to the draft in the order of its lines, and their
looks do not matter.

* `KeyPart`, `KeyText` — spellings of keys; `keyParts?_of_key` — they are read
  as these keys.
* `Statement` — what a line says; `Draft.after?` — the draft after that.
* `Stated`, `Line`, `Lines` — statements, lines and documents in their spellings.
* `read?_of_document` — a document comes to what its statements make of an
  empty draft.
-/
import AgentState.Proofs.Toml.Scalar
import Mathlib.Data.List.TakeWhile

namespace AgentState.Toml

/-! ## White space and the ends of lines -/

/-- White space inside a line. -/
def Blank (cs : List Char) : Prop := ∀ c ∈ cs, isSpace c = true

/-- No white space comes next. -/
def Dense (cs : List Char) : Prop := ∀ c ∈ cs.head?, isSpace c = false

theorem dropSpace_blank {bs rest : List Char} (blank : Blank bs) (dense : Dense rest) :
    dropSpace (bs ++ rest) = rest :=
  Decimal.dropWhile_front blank dense

/-- A comment, if there is one. -/
inductive Comment : List Char → Prop where
  | none : Comment []
  | some {cs : List Char} (plain : ∀ c ∈ cs, isPlain c = true) : Comment ('#' :: cs)

/-- The two line breaks. -/
inductive Break : List Char → Prop where
  | feed : Break ['\n']
  | carriage : Break ['\r', '\n']

/-- A line break or the end of the text comes next. -/
def AtBreak (rest : List Char) : Prop := ∀ c ∈ rest.head?, c = '\n' ∨ c = '\r'

theorem AtBreak.notSpace {rest : List Char} (h : AtBreak rest) : Dense rest := by
  intro c mem
  rcases h c mem with rfl | rfl <;> rfl

theorem Break.atBreak {bs : List Char} (h : Break bs) (rest : List Char) :
    AtBreak (bs ++ rest) := by
  cases h with
  | feed => exact fun c mem => .inl (Option.some.inj mem).symm
  | carriage => exact fun c mem => .inr (Option.some.inj mem).symm

theorem lineBreak?_of_break {bs : List Char} (h : Break bs) (rest : List Char) :
    lineBreak? (bs ++ rest) = some rest := by
  cases h <;> rfl

theorem Comment.notSpace {cs rest : List Char} (h : Comment cs) (stop : AtBreak rest) :
    Dense (cs ++ rest) := by
  cases h with
  | none => exact stop.notSpace
  | some =>
    intro c mem
    obtain rfl : '#' = c := Option.some.inj mem
    rfl

/-- A value may end where the rest of its line says nothing more. -/
theorem Comment.atEnd {as cs rest : List Char} (blank : Blank as) (h : Comment cs)
    (stop : AtBreak rest) : AtEnd (as ++ (cs ++ rest)) := by
  intro c mem
  cases as with
  | cons a as =>
    obtain rfl : a = c := Option.some.inj mem
    have space := blank a List.mem_cons_self
    simp only [isSpace, Bool.or_eq_true, beq_iff_eq] at space
    rcases space with rfl | rfl <;> decide
  | nil =>
    cases h with
    | some =>
      obtain rfl : '#' = c := Option.some.inj mem
      decide
    | none => rcases stop c mem with rfl | rfl <;> decide

/-- White space and a comment are all that may be left of a line. -/
theorem lineEnd?_of_comment {as cs rest : List Char} (blank : Blank as) (h : Comment cs)
    (stop : AtBreak rest) : lineEnd? (as ++ (cs ++ rest)) = lineBreak? rest := by
  rw [lineEnd?, dropSpace_blank blank (h.notSpace stop)]
  cases h with
  | none =>
    rw [List.nil_append, dropComment.eq_def]
    split
    · rcases stop '#' rfl with h | h <;> cases h
    · rfl
  | some plain =>
    have stops : ∀ c ∈ rest.head?, isPlain c = false := by
      intro c mem
      rcases stop c mem with rfl | rfl <;> decide
    exact congrArg lineBreak? (Decimal.dropWhile_front plain stops)

/-! ## Keys -/

/-- One part of a key: letters, digits, dashes and underscores, or a string of
one line. -/
inductive KeyPart : String → List Char → Prop where
  | bare {cs : List Char} (some : cs ≠ []) (bare : ∀ c ∈ cs, isBare c = true) :
      KeyPart (String.ofList cs) cs
  | quoted {s cs : List Char} (quoted : Quoted s cs) :
      KeyPart (String.ofList s) ('"' :: (cs ++ ['"']))
  | literal {s : List Char} (literal : ∀ c ∈ s, isLiteral c = true) :
      KeyPart (String.ofList s) ('\'' :: (s ++ ['\'']))

/-- A key: one or more parts with points between them, and white space around
the points and behind the last part. -/
inductive KeyText : List String → List Char → Prop where
  | last {name : String} {cs as : List Char} (part : KeyPart name cs) (after : Blank as) :
      KeyText [name] (cs ++ as)
  | next {name : String} {names : List String} {cs as bs ns : List Char}
      (part : KeyPart name cs) (after : Blank as) (before : Blank bs)
      (more : KeyText names ns) : KeyText (name :: names) (cs ++ (as ++ '.' :: (bs ++ ns)))

/-- Characters that no key begins with. -/
def noKeys : List Char := [' ', '\t', '[', '#', '\n', '\r', '\ufeff']

theorem KeyPart.cases_head {name : String} {cs : List Char} (h : KeyPart name cs) :
    ∃ c cs', cs = c :: cs' ∧ c ∉ noKeys := by
  cases h with
  | quoted => exact ⟨_, _, rfl, by decide⟩
  | literal => exact ⟨_, _, rfl, by decide⟩
  | bare nonempty bare =>
    cases cs with
    | nil => exact absurd rfl nonempty
    | cons c cs =>
      have other : ∀ c ∈ noKeys, isBare c = false := forall_mem_of_all (by decide)
      refine ⟨c, cs, rfl, fun mem => ?_⟩
      have isBare := bare c List.mem_cons_self
      rw [other c mem] at isBare
      cases isBare

/-- A name of letters, digits, dashes and underscores stands as it is. -/
theorem KeyPart.of_bare {name : String} (nonempty : name ≠ "")
    (bare : name.toList.all isBare = true) : KeyPart name name.toList := by
  have part := KeyPart.bare (mt String.toList_eq_nil_iff.1 nonempty) (List.all_eq_true.1 bare)
  rwa [String.ofList_toList] at part

theorem KeyText.cases_head {names : List String} {cs : List Char} (h : KeyText names cs) :
    ∃ c cs', cs = c :: cs' ∧ c ∉ noKeys := by
  cases h with
  | last part | next part =>
    obtain ⟨c, cs', rfl, other⟩ := part.cases_head
    exact ⟨c, _, List.cons_append, other⟩

/-- What is not among the characters that no key begins with is no white
space. -/
theorem dense_cons {c : Char} (other : c ∉ noKeys) (cs : List Char) : Dense (c :: cs) := by
  intro d mem
  obtain rfl : c = d := Option.some.inj mem
  refine Bool.eq_false_iff.2 fun space => other ?_
  simp only [isSpace, Bool.or_eq_true, beq_iff_eq] at space
  rcases space with rfl | rfl <;> decide

theorem KeyPart.dense {name : String} {cs : List Char} (h : KeyPart name cs) (rest : List Char) :
    Dense (cs ++ rest) := by
  obtain ⟨c, cs', rfl, other⟩ := h.cases_head
  exact dense_cons other _

theorem keyPart?_of_keyPart {name : String} {cs rest : List Char} (h : KeyPart name cs)
    (stop : ∀ c ∈ rest.head?, isBare c = false) : keyPart? (cs ++ rest) = some (name, rest) := by
  cases h with
  | quoted quoted =>
    simp only [List.cons_append, List.append_assoc, List.nil_append]
    rw [keyPart?, basic?_of_quoted quoted]
    rfl
  | literal literal =>
    simp only [List.cons_append, List.append_assoc, List.nil_append]
    rw [keyPart?, literal?_of_literal literal]
    rfl
  | bare nonempty bare =>
    have front := Decimal.takeWhile_front bare stop
    have back := Decimal.dropWhile_front bare stop
    have noMark (mark : Char) (other : isBare mark = false) (more : List Char) :
        cs ++ rest ≠ mark :: more := by
      intro h
      cases cs with
      | nil => exact nonempty rfl
      | cons c cs =>
        have isBare := bare c List.mem_cons_self
        rw [(List.cons.inj h).1, other] at isBare
        cases isBare
    rw [keyPart?, front, back, if_neg (by simpa using nonempty)]
    · exact noMark _ (by decide)
    · exact noMark _ (by decide)

/-- A key ends at an equals sign or at the bracket of a header. -/
def AfterKey (rest : List Char) : Prop := ∃ more, rest = '=' :: more ∨ rest = ']' :: more

/-- Characters that are no part of a key without quotes. -/
theorem isBare_after {as rest : List Char} (blank : Blank as) {c : Char}
    (mark : c = '.' ∨ c = '=' ∨ c = ']') : ∀ d ∈ (as ++ c :: rest).head?, isBare d = false := by
  intro d mem
  cases as with
  | nil =>
    obtain rfl : c = d := Option.some.inj mem
    rcases mark with rfl | rfl | rfl <;> decide
  | cons a as =>
    obtain rfl : a = d := Option.some.inj mem
    have space := blank a List.mem_cons_self
    simp only [isSpace, Bool.or_eq_true, beq_iff_eq] at space
    rcases space with rfl | rfl <;> decide

theorem dense_mark {c : Char} (mark : c = '.' ∨ c = '=' ∨ c = ']') (cs : List Char) :
    Dense (c :: cs) :=
  dense_cons (by rcases mark with rfl | rfl | rfl <;> decide) cs

/-- A key is read as its parts, wherever it begins. -/
theorem keyParts?_of_key {names : List String} {cs rest : List Char} (h : KeyText names cs)
    (after : AfterKey rest) {limit : Nat} (short : names.length ≤ limit) {bs : List Char}
    (blank : Blank bs) : keyParts? limit (bs ++ (cs ++ rest)) = some (names, rest) := by
  induction h generalizing limit bs with
  | last part behind =>
    obtain ⟨limit, rfl⟩ : ∃ l, limit = l + 1 := ⟨limit - 1, by simp at short; omega⟩
    obtain ⟨more, after⟩ := after
    obtain ⟨mark, isMark, rfl⟩ : ∃ c, (c = '=' ∨ c = ']') ∧ rest = c :: more := by
      rcases after with rfl | rfl
      · exact ⟨_, .inl rfl, rfl⟩
      · exact ⟨_, .inr rfl, rfl⟩
    rw [List.append_assoc, keyParts?, dropSpace_blank blank (part.dense _),
      keyPart?_of_keyPart part (isBare_after behind (.inr isMark))]
    simp only [Option.bind_eq_bind, Option.bind_some]
    rw [dropSpace_blank behind (dense_mark (.inr isMark) _)]
    rcases isMark with rfl | rfl <;> rfl
  | next part behind before _ ih =>
    obtain ⟨limit, rfl⟩ : ∃ l, limit = l + 1 := ⟨limit - 1, by simp at short; omega⟩
    simp only [List.append_assoc, List.cons_append]
    rw [keyParts?, dropSpace_blank blank (part.dense _),
      keyPart?_of_keyPart part (isBare_after behind (.inl rfl))]
    simp only [Option.bind_eq_bind, Option.bind_some]
    rw [dropSpace_blank behind (dense_mark (.inl rfl) _)]
    simp only
    rw [ih (by simpa using short) before]
    rfl

/-- A key of not too many parts is read as the way to its table and its own
name. -/
theorem key?_of_key {path : List String} {name : String} {cs rest : List Char}
    (h : KeyText (path ++ [name]) cs) (after : AfterKey rest) (short : path.length < keyLimit)
    {bs : List Char} (blank : Blank bs) :
    key? (bs ++ (cs ++ rest)) = some ((path, name), rest) := by
  rw [key?, keyParts?_of_key h after (by simpa using Nat.succ_le_of_lt short) blank]
  simp

/-! ## Statements -/

/-- What a line says: that a table begins, or that a key has a value. -/
inductive Statement where
  | table (path : List String) (name : String)
  | pair (path : List String) (name : String) (v : Value)

/-- The draft after a statement, if it fits. -/
def Draft.after? (d : Draft) : Statement → Option Draft
  | .table path name => d.openTable? path name
  | .pair path name v => d.put? path name v

/-- Statements in their spellings. -/
inductive Stated : Statement → List Char → Prop where
  | table {path : List String} {name : String} {bs cs : List Char} (blank : Blank bs)
      (key : KeyText (path ++ [name]) cs) (short : path.length < keyLimit) :
      Stated (.table path name) ('[' :: (bs ++ (cs ++ [']'])))
  | pair {path : List String} {name : String} {v : Value} {cs bs vs : List Char}
      (key : KeyText (path ++ [name]) cs) (short : path.length < keyLimit) (blank : Blank bs)
      (value : Spells v vs) : Stated (.pair path name v) (cs ++ '=' :: (bs ++ vs))

theorem Stated.cases_head {s : Statement} {cs : List Char} (h : Stated s cs) :
    ∃ c cs', cs = c :: cs' ∧ (c = '[' ∨ c ∉ noKeys) := by
  cases h with
  | table => exact ⟨_, _, rfl, .inl rfl⟩
  | pair key =>
    obtain ⟨c, cs', rfl, other⟩ := key.cases_head
    exact ⟨c, _, List.cons_append, .inr other⟩

theorem value?_nil (depth : Nat) : value? depth [] = none := by
  cases depth <;> rfl

theorem value?_space {c : Char} (space : isSpace c = true) (depth : Nat) (cs : List Char) :
    value? depth (c :: cs) = none := by
  simp only [isSpace, Bool.or_eq_true, beq_iff_eq] at space
  rcases space with rfl | rfl
  · obtain ⟨noDate, noTime⟩ := not_begins (' ' :: cs) nofun
    rw [value?_of_plain (by decide), noDate, noTime]
    rfl
  · obtain ⟨noDate, noTime⟩ := not_begins ('\t' :: cs) nofun
    rw [value?_of_plain (by decide), noDate, noTime]
    rfl

/-- No value begins with white space. -/
theorem Reads.dense {v : Value} {cs : List Char} (h : Reads v cs) (rest : List Char) :
    Dense (cs ++ rest) := by
  have alone := h [] nofun
  rw [List.append_nil] at alone
  intro c mem
  cases cs with
  | nil =>
    rw [value?_nil] at alone
    cases alone
  | cons d cs =>
    obtain rfl : d = c := Option.some.inj mem
    refine Bool.eq_false_iff.2 fun space => ?_
    rw [value?_space space] at alone
    cases alone

theorem line?_of_stated {s : Statement} {cs rest : List Char} (h : Stated s cs) (stop : AtEnd rest)
    (d : Draft) : line? d (cs ++ rest) = (d.after? s).map fun d => (d, rest) := by
  cases h with
  | @table path name bs cs blank key short =>
    have noList : ∀ more, bs ++ (cs ++ ']' :: rest) ≠ '[' :: more := by
      intro more list
      cases bs with
      | nil =>
        obtain ⟨c, cs', rfl, other⟩ := key.cases_head
        obtain rfl : c = '[' := (List.cons.inj list).1
        exact other (by decide)
      | cons b bs =>
        have space := blank b List.mem_cons_self
        rw [(List.cons.inj list).1] at space
        cases space
    simp only [List.cons_append, List.append_assoc, List.nil_append]
    rw [line?, header?, key?_of_key key ⟨_, .inr rfl⟩ short blank]
    · rfl
    · exact noList
  | @pair path name v cs bs vs key short blank value =>
    have read : key? ([] ++ (cs ++ '=' :: (bs ++ (vs ++ rest)))) =
        some ((path, name), '=' :: (bs ++ (vs ++ rest))) :=
      key?_of_key key ⟨_, .inl rfl⟩ short nofun
    obtain ⟨c, cs', rfl, other⟩ := key.cases_head
    have isPair : line? d (c :: (cs' ++ '=' :: (bs ++ (vs ++ rest)))) =
        pair? d (c :: (cs' ++ '=' :: (bs ++ (vs ++ rest)))) := by
      have noMark (d : Char) (mem : d ∈ noKeys) (more : List Char) :
          c :: (cs' ++ '=' :: (bs ++ (vs ++ rest))) ≠ d :: more :=
        fun same => other ((List.cons.inj same).1 ▸ mem)
      unfold line?
      split
      · next h => exact absurd h (noMark '[' (by decide) _)
      · next h => exact absurd h (noMark '#' (by decide) _)
      · next h => exact absurd h (noMark '\n' (by decide) _)
      · next h => exact absurd h (noMark '\r' (by decide) _)
      · rfl
    simp only [List.cons_append, List.append_assoc, List.nil_append] at read ⊢
    rw [isPair, pair?, read]
    simp only [Option.bind_eq_bind, Option.bind_some]
    rw [dropSpace_blank blank (value.reads.dense rest), value.reads rest stop]
    rfl

/-! ## Lines -/

/-- A line and what it says, if it says anything. -/
inductive Line : Option Statement → List Char → Prop where
  | empty {bs cs : List Char} (blank : Blank bs) (comment : Comment cs) : Line none (bs ++ cs)
  | stated {s : Statement} {bs cs as ds : List Char} (before : Blank bs) (stated : Stated s cs)
      (after : Blank as) (comment : Comment ds) : Line (some s) (bs ++ (cs ++ (as ++ ds)))

/-- Lines with a break behind each of them but the last, and all that they
say. -/
inductive Lines : List Statement → List Char → Prop where
  | last {s? : Option Statement} {cs : List Char} (line : Line s? cs) : Lines s?.toList cs
  | next {s? : Option Statement} {cs bs : List Char} {ss : List Statement} {rest : List Char}
      (line : Line s? cs) (ends : Break bs) (more : Lines ss rest) :
      Lines (s?.toList ++ ss) (cs ++ (bs ++ rest))

theorem Stated.dense {s : Statement} {cs : List Char} (h : Stated s cs) (rest : List Char) :
    Dense (cs ++ rest) := by
  obtain ⟨c, cs', rfl, rfl | other⟩ := h.cases_head
  · intro c mem
    obtain rfl : '[' = c := Option.some.inj mem
    rfl
  · exact dense_cons other _

/-- A line with anything on it is one step of the reader. -/
theorem lines?_of_line {s? : Option Statement} {cs rest : List Char} (h : Line s? cs)
    (stop : AtBreak rest) (some : dropSpace (cs ++ rest) ≠ []) (room : Nat) (d : Draft) :
    lines? (room + 1) d (cs ++ rest) =
      (s?.toList.foldlM Draft.after? d).bind fun d => (lineBreak? rest).bind (lines? room d) := by
  rw [lines?, if_neg (by simpa using some)]
  cases h with
  | @empty bs cs blank comment =>
    rw [List.append_assoc] at some ⊢
    rw [dropSpace_blank blank (comment.notSpace stop)] at some ⊢
    have same : line? d (cs ++ rest) = Option.some (d, cs ++ rest) := by
      cases comment with
      | some => rfl
      | none =>
        cases rest with
        | nil => exact absurd rfl some
        | cons c rest => rcases stop c rfl with rfl | rfl <;> rfl
    have ends := lineEnd?_of_comment (show Blank [] from nofun) comment stop
    rw [List.nil_append] at ends
    rw [same]
    simp only [Option.bind_eq_bind, Option.bind_some, ends]
    rfl
  | @stated s bs cs as ds before stated after comment =>
    simp only [List.append_assoc] at some ⊢
    rw [dropSpace_blank before (stated.dense _), line?_of_stated stated (comment.atEnd after stop),
      Option.toList_some, List.foldlM_cons]
    cases d.after? s with
    | none => rfl
    | some d =>
      simp only [Option.bind_eq_bind, Option.map_some, Option.bind_some,
        lineEnd?_of_comment after comment stop]
      rfl

/-- Only a line that says nothing is nothing but white space. -/
theorem Line.dropSpace_ne_nil {s : Statement} {cs : List Char} (h : Line (some s) cs)
    (rest : List Char) : dropSpace (cs ++ rest) ≠ [] := by
  cases h with
  | stated before stated =>
    obtain ⟨c, cs', rfl, -⟩ := stated.cases_head
    simp only [List.append_assoc]
    rw [dropSpace_blank before (stated.dense _)]
    exact List.cons_ne_nil _ _

/-- What lines say is done in their order. -/
theorem lines?_of_lines {ss : List Statement} {cs : List Char} (h : Lines ss cs) {room : Nat}
    (enough : cs.length < room) (d : Draft) : lines? room d cs = ss.foldlM Draft.after? d := by
  induction h generalizing room d with
  | @last s? cs line =>
    obtain ⟨room, rfl⟩ : ∃ r, room = r + 1 := ⟨room - 1, by omega⟩
    -- a last line without anything on it ends the document unread
    by_cases some : dropSpace cs = []
    · cases s? with
      | some s =>
        have := line.dropSpace_ne_nil []
        rw [List.append_nil] at this
        exact absurd some this
      | none =>
        rw [lines?, if_pos (by simp [some])]
        rfl
    · have step :=
        lines?_of_line line (show AtBreak [] from nofun) (by rwa [List.append_nil]) room d
      obtain ⟨room, rfl⟩ : ∃ r, room = r + 1 := by
        refine ⟨room - 1, ?_⟩
        have : cs ≠ [] := by
          rintro rfl
          exact some rfl
        have := List.length_pos_iff.2 this
        omega
      rw [List.append_nil] at step
      rw [step]
      exact Option.bind_fun_some _
  | @next s? cs bs ss rest line ends _ ih =>
    obtain ⟨room, rfl⟩ : ∃ r, room = r + 1 := ⟨room - 1, by omega⟩
    have breaks : 0 < bs.length := by cases ends <;> decide
    simp only [List.length_append] at enough
    -- the break itself is no white space
    have some : dropSpace (cs ++ (bs ++ rest)) ≠ [] := by
      intro none
      have spaces := List.dropWhile_eq_nil_iff.1 none
      cases ends with
      | feed => exact absurd (spaces '\n' (by simp)) (by decide)
      | carriage => exact absurd (spaces '\r' (by simp)) (by decide)
    rw [lines?_of_line line (ends.atBreak rest) some, lineBreak?_of_break ends,
      List.foldlM_append]
    congr 1
    funext d
    exact ih (by omega) d

/-- No document begins with a byte order mark, but for the one that is
skipped. -/
theorem Lines.not_marked {ss : List Statement} {cs : List Char} (h : Lines ss cs) :
    cs.head? ≠ some '\ufeff' := by
  have line {s? : Option Statement} {cs rest : List Char} (h : Line s? cs)
      (stop : AtBreak rest) : (cs ++ rest).head? ≠ some '\ufeff' := by
    intro mark
    cases h with
    | @empty bs cs blank comment =>
      rw [List.append_assoc] at mark
      exact absurd (comment.atEnd blank stop _ mark) (by decide)
    | @stated s bs cs as ds before stated =>
      cases bs with
      | cons b bs =>
        obtain rfl : b = '\ufeff' := Option.some.inj mark
        exact absurd (before _ List.mem_cons_self) (by decide)
      | nil =>
        obtain ⟨c, cs', rfl, other⟩ := stated.cases_head
        obtain rfl : c = '\ufeff' := Option.some.inj mark
        exact absurd other (by decide)
  cases h with
  | last one =>
    have head := line one (show AtBreak [] from nofun)
    rwa [List.append_nil] at head
  | next one ends => exact line one (ends.atBreak _)

/-- The whole text of a document, perhaps with a byte order mark at its
front. -/
inductive DocumentText (ss : List Statement) (text : String) : Prop where
  | plain (lines : Lines ss text.toList)
  | marked {cs : List Char} (lines : Lines ss cs) (mark : text.toList = '\ufeff' :: cs)

/-- A document comes to what its statements make of an empty draft, in their
order. -/
theorem read?_of_document {ss : List Statement} {text : String} (h : DocumentText ss text) :
    read? text = (ss.foldlM Draft.after? .empty).map fun d => d.root.value := by
  have read (cs : List Char) (lines : Lines ss cs) :
      (lines? (cs.length + 1) .empty cs).map (fun d => d.root.value) =
        (ss.foldlM Draft.after? .empty).map fun d => d.root.value := by
    rw [lines?_of_lines lines (Nat.lt_succ_self _)]
  rw [read?]
  cases h with
  | plain lines =>
    rw [← read _ lines]
    split
    · next mark => exact absurd (congrArg List.head? mark) lines.not_marked
    · rfl
  | marked lines mark =>
    rw [← read _ lines]
    simp only [mark]

end AgentState.Toml
