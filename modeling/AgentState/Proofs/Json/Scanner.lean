/-
AgentState.Proofs.Json.Scanner — a printed document has its tokens.

* `Value.Spelled` — documents whose strings and numbers are spelled as
  the format asks for.
* `Value.tokens` — the tokens of a document.
* `Layout.Blank` — layouts that put nothing but white space between
  tokens; both layouts do.
* `Value.scan_render` — the scanner finds those tokens in the document's
  text, in every such layout and whatever follows.

A word ends at the octet behind it, so what follows a document has to be
nothing or an octet that ends words (`WordEnd`).
-/
import AgentState.Json.Printer
import AgentState.Json.Reader
import AgentState.Proofs.Json.Numeral
import AgentState.Proofs.Json.Quoted

namespace AgentState.Json

open Octet

/-! ## Documents that are spelled well -/

/-- Octets that a scanner passes without leaving the string it is in. -/
def Scanner.Inside (raw : Octets) : Prop :=
  ∀ tokens taken, raw.foldlM Scanner.step ⟨tokens, .string taken⟩ =
    some ⟨tokens, .string (raw.reverse ++ taken)⟩

/-- Octets that spell a number and that no octet in them ends. -/
structure Numeral.Spelled (lexeme : Octets) : Prop where
  reads : (Numeral.read? lexeme).isSome = true
  whole : ∀ b ∈ lexeme, Scanner.endsWord b = false

/-- Documents whose strings and numbers are spelled as the format asks
for. -/
inductive Value.Spelled : Value → Prop where
  | null : Value.null.Spelled
  | bool (b : Bool) : (Value.bool b).Spelled
  | number {lexeme : Octets} (h : Numeral.Spelled lexeme) : (Value.number lexeme).Spelled
  | string {raw : Octets} (h : Scanner.Inside raw) : (Value.string raw).Spelled
  | array {items : List Value} (h : ∀ v ∈ items, v.Spelled) : (Value.array items).Spelled
  | object {members : List (Octets × Value)} (hk : ∀ m ∈ members, Scanner.Inside m.1)
      (hv : ∀ m ∈ members, m.2.Spelled) : (Value.object members).Spelled

mutual

/-- The tokens of a document. -/
def Value.tokens : Value → List Token
  | .null => [.word (octetsOf "null")]
  | .bool true => [.word (octetsOf "true")]
  | .bool false => [.word (octetsOf "false")]
  | .number lexeme => [.word lexeme]
  | .string raw => [.string raw]
  | .array [] => [.openArray, .closeArray]
  | .array (v :: rest) => .openArray :: v.tokens ++ itemTokens rest ++ [.closeArray]
  | .object [] => [.openObject, .closeObject]
  | .object ((k, v) :: rest) =>
      .openObject :: .string k :: .colon :: v.tokens ++ memberTokens rest ++ [.closeObject]

/-- The tokens of the items after the first. -/
def itemTokens : List Value → List Token
  | [] => []
  | v :: rest => .comma :: v.tokens ++ itemTokens rest

/-- The tokens of the members after the first. -/
def memberTokens : List (Octets × Value) → List Token
  | [] => []
  | (k, v) :: rest => .comma :: .string k :: .colon :: v.tokens ++ memberTokens rest

end

/-! ## One octet -/

namespace Scanner

variable {tokens : List Token} {taken : Octets} {b : UInt8}

theorem step_plain (hquote : b ≠ quote) (hslash : b ≠ backslash) (h : ¬ b < 0x20) :
    step ⟨tokens, .string taken⟩ b = some ⟨tokens, .string (b :: taken)⟩ := by
  simp [step, hquote, hslash, h]

theorem step_backslash :
    step ⟨tokens, .string taken⟩ backslash = some ⟨tokens, .escape (backslash :: taken)⟩ := by
  simp [step, show backslash ≠ quote by decide]

theorem step_letter (hu : b ≠ 0x75) (h : isEscapeLetter b = true) :
    step ⟨tokens, .escape taken⟩ b = some ⟨tokens, .string (b :: taken)⟩ := by
  simp [step, hu, h]

theorem step_u :
    step ⟨tokens, .escape taken⟩ 0x75 = some ⟨tokens, .code (0x75 :: taken) 4⟩ := by
  simp [step]

theorem step_hex {left : Nat} (h : (hexValue? b).isNone = false) :
    step ⟨tokens, .code taken left⟩ b =
      some ⟨tokens, if left ≤ 1 then .string (b :: taken) else .code (b :: taken) (left - 1)⟩ := by
  by_cases hl : left ≤ 1 <;> simp [step, h, hl]

theorem step_quote :
    step ⟨tokens, .string taken⟩ quote = some ⟨.string taken.reverse :: tokens, .between⟩ := by
  simp [step]

theorem step_word (h : endsWord b = false) :
    step ⟨tokens, .word taken⟩ b = some ⟨tokens, .word (b :: taken)⟩ := by
  simp [step, h]

/-! ## Spellings inside of strings -/

theorem inside_nil : Inside [] := by
  intro tokens taken
  rfl

theorem Inside.append {as bs : Octets} (ha : Inside as) (hb : Inside bs) : Inside (as ++ bs) := by
  intro tokens taken
  rw [List.foldlM_append, ha tokens taken]
  simp [hb tokens]

theorem isNone_hexValue?_ofHexDigit {n : Nat} (h : n < 16) :
    (hexValue? (ofHexDigit n)).isNone = false := by
  have all : ∀ n < 16, (hexValue? (ofHexDigit n)).isNone = false := by decide
  exact all n h

theorem inside_spelling {bs : Octets} (h : Quoted.Spelling b bs) : Inside bs := by
  intro tokens taken
  cases h with
  | short letter hmem =>
    have all : Quoted.shortEscapes.all (fun e => e.2 != 0x75 && isEscapeLetter e.2) = true := by
      decide
    obtain ⟨hu, hletter⟩ : letter ≠ 0x75 ∧ isEscapeLetter letter = true := by
      simpa using List.all_eq_true.1 all (b, letter) hmem
    simp [step_backslash, step_letter hu hletter]
  | code hlow =>
    have hn : b.toNat < 32 := hlow
    have hzero : (hexValue? zero).isNone = false := rfl
    have hhigh := isNone_hexValue?_ofHexDigit (show b.toNat / 16 < 16 by omega)
    have hrest := isNone_hexValue?_ofHexDigit (show b.toNat % 16 < 16 by omega)
    simp [step_backslash, step_u, step_hex hzero, step_hex hhigh, step_hex hrest]
  | plain hquote hslash hhigh =>
    simp [step_plain hquote hslash hhigh]

theorem inside_escape (bs : Octets) : Inside (Quoted.escape bs) := by
  induction bs with
  | nil => exact inside_nil
  | cons b bs ih => exact (inside_spelling (Quoted.spelling b)).append ih

/-! ## Octets between tokens -/

/-- The tokens in the end, from a scanner that has already begun. -/
def run? (s : Scanner) (bs : Octets) : Option (List Token) := (bs.foldlM step s).bind finish?

theorem run?_cons {s s' : Scanner} {b : UInt8} (h : step s b = some s') (bs : Octets) :
    run? s (b :: bs) = run? s' bs := by
  rw [run?, List.foldlM_cons, h]
  rfl

theorem run?_append {s s' : Scanner} {as : Octets} (h : as.foldlM step s = some s')
    (bs : Octets) : run? s (as ++ bs) = run? s' bs := by
  rw [run?, List.foldlM_append, h]
  rfl

/-- What may follow a word: nothing, or an octet that ends it. -/
def WordEnd (bs : Octets) : Prop := ∀ b ∈ bs.head?, endsWord b = true

theorem wordEnd_cons {b : UInt8} {bs : Octets} (h : endsWord b = true) : WordEnd (b :: bs) := by
  intro c hc
  rw [← Option.some.inj hc]
  exact h

theorem run?_blank {blank : Octets} (h : ∀ b ∈ blank, isSpace b = true) (rest : Octets) :
    run? ⟨tokens, .between⟩ (blank ++ rest) = run? ⟨tokens, .between⟩ rest := by
  induction blank with
  | nil => rfl
  | cons b blank ih =>
    have hb := h b (by simp)
    have hstep : step ⟨tokens, .between⟩ b = some ⟨tokens, .between⟩ := by
      simp [step, free, hb]
    rw [List.cons_append, run?_cons hstep]
    exact ih (fun c hc => h c (by simp [hc]))

theorem isSpace_of_punctuation {t : Token} (h : punctuation? b = some t) :
    isSpace b = false := by
  cases hb : isSpace b with
  | false => rfl
  | true =>
    simp [isSpace] at hb
    rcases hb with ((rfl | rfl) | rfl) | rfl <;> cases h

theorem run?_punctuation {t : Token} (h : punctuation? b = some t) (rest : Octets) :
    run? ⟨tokens, .between⟩ (b :: rest) = run? ⟨t :: tokens, .between⟩ rest := by
  apply run?_cons
  simp [step, free, h, isSpace_of_punctuation h]

theorem run?_quoted {raw : Octets} (h : Inside raw) (rest : Octets) :
    run? ⟨tokens, .between⟩ (quoted raw ++ rest) =
      run? ⟨.string raw :: tokens, .between⟩ rest := by
  have hopen : step ⟨tokens, .between⟩ quote = some ⟨tokens, .string []⟩ := by
    simp [step, free, show isSpace quote = false from rfl,
      show punctuation? quote = none from rfl]
  have hclose : step ⟨tokens, .string (raw.reverse ++ [])⟩ quote =
      some ⟨.string (raw.reverse ++ []).reverse :: tokens, .between⟩ := step_quote
  rw [quoted, List.append_assoc, List.cons_append, run?_cons hopen, run?_append (h tokens []),
    List.singleton_append, run?_cons hclose]
  simp

theorem foldlM_word {word : Octets} (h : ∀ b ∈ word, endsWord b = false) :
    word.foldlM step ⟨tokens, .word taken⟩ = some ⟨tokens, .word (word.reverse ++ taken)⟩ := by
  induction word generalizing taken with
  | nil => rfl
  | cons b word ih =>
    have hstep : step ⟨tokens, .word taken⟩ b = some ⟨tokens, .word (b :: taken)⟩ :=
      step_word (h b (by simp))
    have hrest : word.foldlM step ⟨tokens, .word (b :: taken)⟩ =
        some ⟨tokens, .word (word.reverse ++ b :: taken)⟩ :=
      ih (fun c hc => h c (by simp [hc]))
    rw [List.foldlM_cons, hstep]
    simpa using hrest

/-- A word is taken whole when what follows it ends words. -/
theorem run?_word {word rest : Octets} (hne : word ≠ []) (h : ∀ b ∈ word, endsWord b = false)
    (hrest : WordEnd rest) :
    run? ⟨tokens, .between⟩ (word ++ rest) = run? ⟨.word word :: tokens, .between⟩ rest := by
  cases word with
  | nil => exact absurd rfl hne
  | cons b word =>
    have hb : isSpace b = false ∧ punctuation? b = none ∧ b ≠ quote := by
      have hend := h b (by simp)
      simp [endsWord] at hend
      exact ⟨hend.1.1, hend.1.2, hend.2⟩
    have hstep : step ⟨tokens, .between⟩ b = some ⟨tokens, .word [b]⟩ := by
      simp [step, free, hb]
    have hword : word.foldlM step ⟨tokens, .word [b]⟩ =
        some ⟨tokens, .word (word.reverse ++ [b])⟩ :=
      foldlM_word (fun c hc => h c (List.mem_cons_of_mem b hc))
    rw [List.cons_append, run?_cons hstep, run?_append hword]
    cases rest with
    | nil => simp [run?, finish?]
    | cons c rest =>
      have hc := hrest c rfl
      have hboth : step ⟨tokens, .word (word.reverse ++ [b])⟩ c =
          step ⟨.word (b :: word) :: tokens, .between⟩ c := by
        simp [step, hc]
      simp [run?, hboth]

end Scanner

/-! ## A document -/

/-- A layout that puts nothing but white space between tokens. -/
structure Layout.Blank (lay : Layout) : Prop where
  lineBreak : ∀ depth, ∀ b ∈ lay.lineBreak depth, Scanner.isSpace b = true
  afterColon : ∀ b ∈ lay.afterColon, Scanner.isSpace b = true

theorem Layout.blank_compact : Layout.compact.Blank := by
  constructor <;> simp [Layout.compact]

theorem Layout.blank_pretty : Layout.pretty.Blank := by
  constructor
  · intro depth b hb
    simp only [Layout.pretty, List.mem_cons] at hb
    rcases hb with rfl | hb
    · rfl
    · rw [List.eq_of_mem_replicate hb]
      rfl
  · simp [Layout.pretty, Scanner.isSpace]

namespace Scanner

variable {lay : Layout} {tokens : List Token} {depth : Nat} {rest : Octets}

/-- The scanner finds the tokens of `v` in its text, at every depth,
after any tokens and before anything that ends words. -/
def Finds (lay : Layout) (v : Value) : Prop :=
  ∀ depth tokens rest, WordEnd rest →
    run? ⟨tokens, .between⟩ (v.renderAt lay depth ++ rest) =
      run? ⟨v.tokens.reverse ++ tokens, .between⟩ rest

theorem endsWord_of_isSpace {b : UInt8} (h : isSpace b = true) : endsWord b = true := by
  simp [endsWord, h]

/-- White space before an octet that ends words ends words as well. -/
theorem wordEnd_blank {blank : Octets} (h : ∀ b ∈ blank, isSpace b = true)
    (hrest : WordEnd rest) : WordEnd (blank ++ rest) := by
  cases blank with
  | nil => exact hrest
  | cons b blank => exact wordEnd_cons (endsWord_of_isSpace (h b (by simp)))

theorem wordEnd_items (items : List Value) (hrest : WordEnd rest) :
    WordEnd (renderItems lay depth items ++ rest) := by
  cases items with
  | nil => simpa [renderItems] using hrest
  | cons v items =>
    simp only [renderItems, List.cons_append]
    exact wordEnd_cons rfl

theorem wordEnd_members (members : List (Octets × Value)) (hrest : WordEnd rest) :
    WordEnd (renderMembers lay depth members ++ rest) := by
  cases members with
  | nil => simpa [renderMembers] using hrest
  | cons m members =>
    obtain ⟨k, v⟩ := m
    simp only [renderMembers, List.cons_append]
    exact wordEnd_cons rfl

theorem run?_items (hlay : lay.Blank) {items : List Value} (h : ∀ v ∈ items, Finds lay v)
    (depth : Nat) (tokens : List Token) (hrest : WordEnd rest) :
    run? ⟨tokens, .between⟩ (renderItems lay depth items ++ rest) =
      run? ⟨(itemTokens items).reverse ++ tokens, .between⟩ rest := by
  induction items generalizing tokens with
  | nil => simp [renderItems, itemTokens]
  | cons v items ih =>
    have hv := h v (by simp)
    have hitems := ih (fun w hw => h w (by simp [hw])) (v.tokens.reverse ++ .comma :: tokens)
    simp only [renderItems, itemTokens, List.cons_append, List.append_assoc]
    rw [run?_punctuation (t := .comma) rfl, run?_blank (hlay.lineBreak depth),
      hv depth _ _ (wordEnd_items items hrest), hitems]
    simp

/-- One member, from its key to the end of its value. -/
theorem run?_member (hlay : lay.Blank) {k : Octets} {v : Value} (hk : Inside k)
    (hv : Finds lay v) (tokens : List Token) (hrest : WordEnd rest) :
    run? ⟨tokens, .between⟩
        (quoted k ++ colon :: (lay.afterColon ++ (v.renderAt lay depth ++ rest))) =
      run? ⟨v.tokens.reverse ++ .colon :: .string k :: tokens, .between⟩ rest := by
  rw [run?_quoted hk, run?_punctuation (t := .colon) rfl, run?_blank hlay.afterColon,
    hv depth _ _ hrest]

theorem run?_members (hlay : lay.Blank) {members : List (Octets × Value)}
    (hk : ∀ m ∈ members, Inside m.1) (hv : ∀ m ∈ members, Finds lay m.2)
    (depth : Nat) (tokens : List Token) (hrest : WordEnd rest) :
    run? ⟨tokens, .between⟩ (renderMembers lay depth members ++ rest) =
      run? ⟨(memberTokens members).reverse ++ tokens, .between⟩ rest := by
  induction members generalizing tokens with
  | nil => simp [renderMembers, memberTokens]
  | cons m members ih =>
    obtain ⟨k, v⟩ := m
    have hkey := hk (k, v) (by simp)
    have hvalue := hv (k, v) (by simp)
    have hmembers := ih (fun n hn => hk n (by simp [hn])) (fun n hn => hv n (by simp [hn]))
      (v.tokens.reverse ++ .colon :: .string k :: .comma :: tokens)
    simp only [renderMembers, memberTokens, List.cons_append, List.append_assoc]
    rw [run?_punctuation (t := .comma) rfl, run?_blank (hlay.lineBreak depth),
      run?_member hlay hkey hvalue _ (wordEnd_members members hrest), hmembers]
    simp

/-- A document of a single word. -/
theorem finds_word {v : Value} {word : Octets} (hrender : ∀ depth, v.renderAt lay depth = word)
    (htokens : v.tokens = [.word word]) (hne : word ≠ []) (h : word.any endsWord = false) :
    Finds lay v := by
  intro depth tokens rest hrest
  have hwhole : ∀ b ∈ word, endsWord b = false := by simpa using h
  rw [hrender, htokens, run?_word hne hwhole hrest]
  rfl

theorem finds_array (hlay : lay.Blank) {items : List Value} (h : ∀ v ∈ items, Finds lay v) :
    Finds lay (.array items) := by
  intro depth tokens rest hrest
  cases items with
  | nil =>
    simp only [Value.renderAt, Value.tokens, List.cons_append, List.nil_append]
    rw [run?_punctuation (t := .openArray) rfl, run?_punctuation (t := .closeArray) rfl]
    rfl
  | cons v items =>
    have hclose : WordEnd (lay.lineBreak depth ++ closeBracket :: rest) :=
      wordEnd_blank (hlay.lineBreak depth) (wordEnd_cons rfl)
    have hv := h v (by simp)
    have hitems := run?_items hlay (fun w hw => h w (List.mem_cons_of_mem v hw))
      (depth + 1) (v.tokens.reverse ++ .openArray :: tokens) hclose
    simp only [Value.renderAt, Value.tokens, List.cons_append, List.append_assoc, List.nil_append]
    rw [run?_punctuation (t := .openArray) rfl, run?_blank (hlay.lineBreak (depth + 1)),
      hv _ _ _ (wordEnd_items items hclose), hitems, run?_blank (hlay.lineBreak depth),
      run?_punctuation (t := .closeArray) rfl]
    simp

theorem finds_object (hlay : lay.Blank) {members : List (Octets × Value)}
    (hk : ∀ m ∈ members, Inside m.1) (hv : ∀ m ∈ members, Finds lay m.2) :
    Finds lay (.object members) := by
  intro depth tokens rest hrest
  cases members with
  | nil =>
    simp only [Value.renderAt, Value.tokens, List.cons_append, List.nil_append]
    rw [run?_punctuation (t := .openObject) rfl, run?_punctuation (t := .closeObject) rfl]
    rfl
  | cons m members =>
    obtain ⟨k, v⟩ := m
    have hclose : WordEnd (lay.lineBreak depth ++ closeBrace :: rest) :=
      wordEnd_blank (hlay.lineBreak depth) (wordEnd_cons rfl)
    have hkey := hk (k, v) (by simp)
    have hvalue := hv (k, v) (by simp)
    have hmembers := run?_members hlay
      (fun n hn => hk n (List.mem_cons_of_mem (k, v) hn))
      (fun n hn => hv n (List.mem_cons_of_mem (k, v) hn)) (depth + 1)
      (v.tokens.reverse ++ .colon :: .string k :: .openObject :: tokens) hclose
    simp only [Value.renderAt, Value.tokens, List.cons_append, List.append_assoc, List.nil_append]
    rw [run?_punctuation (t := .openObject) rfl, run?_blank (hlay.lineBreak (depth + 1)),
      run?_member hlay hkey hvalue _ (wordEnd_members members hclose), hmembers,
      run?_blank (hlay.lineBreak depth), run?_punctuation (t := .closeObject) rfl]
    simp

end Scanner

/-- The scanner finds the tokens of every document that is spelled well,
in every layout. -/
theorem Value.finds_of_spelled {lay : Layout} (hlay : lay.Blank) {v : Value} (h : v.Spelled) :
    Scanner.Finds lay v := by
  induction h with
  | null => exact Scanner.finds_word (fun _ => by simp [renderAt]) rfl (by decide) rfl
  | bool b =>
    cases b
    · exact Scanner.finds_word (fun _ => by simp [renderAt]) rfl (by decide) rfl
    · exact Scanner.finds_word (fun _ => by simp [renderAt]) rfl (by decide) rfl
  | @number lexeme h =>
    have hne : lexeme ≠ [] := by
      rintro rfl
      exact absurd h.reads (by decide)
    have hwhole : lexeme.any Scanner.endsWord = false := by simpa using h.whole
    exact Scanner.finds_word (fun _ => by simp [renderAt]) (by simp [tokens]) hne hwhole
  | @string raw h =>
    intro depth tokens rest hrest
    simp only [renderAt, Value.tokens]
    rw [Scanner.run?_quoted h]
    rfl
  | array _ ih => exact Scanner.finds_array hlay ih
  | object hk _ ih => exact Scanner.finds_object hlay hk ih

/-- A printed document has its tokens. -/
theorem Value.tokens?_render {lay : Layout} (hlay : lay.Blank) {v : Value} (h : v.Spelled) :
    tokens? (v.render lay) = some v.tokens := by
  have hend : Scanner.WordEnd [] := by simp [Scanner.WordEnd]
  have hfind := Value.finds_of_spelled hlay h 0 [] [] hend
  rw [List.append_nil] at hfind
  show Scanner.run? ⟨[], .between⟩ (v.renderAt lay 0) = _
  rw [hfind]
  simp [Scanner.run?, Scanner.finish?]

end AgentState.Json
