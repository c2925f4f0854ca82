/-
AgentState.Proofs.Json.Ending — where a document ends.

An object is over with the brace that closes it, and not before.  What is
cut off in front of that brace is no document, and behind it only white
space leaves the document what it is.

* `Scanner.scan_object` — behind an object the scanner is between tokens,
  with the object's own tokens and no others.
* `Value.ofTokens?_append` — nothing is built of a document's tokens and
  more of them.
* `Value.read?_object_space`, `Value.read?_object_more` — an object with
  white space behind it, and with anything else.
* `Value.read?_object_cut` — an object whose end is cut off.
-/
import AgentState.Proofs.Json.Spelling

namespace AgentState.Json

open Octet

/-! ## Behind the last token -/

namespace Scanner

/-- Where no token is spelled there is nothing but white space. -/
theorem Spells.space_of_nil : ∀ {bs : Octets}, Spells [] bs → ∀ b ∈ bs, isSpace b = true
  | _, .done => by simp
  | _, .space blank rest => by
      intro c mem
      rcases List.mem_cons.1 mem with rfl | mem
      · exact blank
      · exact space_of_nil rest c mem

end Scanner

/-- The last token of an object is the brace that closes it. -/
theorem Value.getLast?_tokens_object (members : List (Octets × Value)) :
    (Value.object members).tokens.getLast? = some .closeObject := by
  cases members with
  | nil => rfl
  | cons m members =>
    obtain ⟨k, v⟩ := m
    rw [tokens, List.getLast?_append]
    rfl

/-- Behind an object the scanner is between tokens: a word would be the last
of them. -/
theorem Scanner.scan_object {members : List (Octets × Value)} {bs : Octets}
    (text : (Value.object members).Text bs) :
    bs.foldlM step ⟨[], .between⟩ = some ⟨(Value.object members).tokens.reverse, .between⟩ := by
  obtain ⟨⟨tokens, mode⟩, scanned, ended⟩ :=
    Option.bind_eq_some_iff.1 (run?_spells text.spells [])
  rw [scanned]
  cases mode with
  | between =>
    have all : tokens.reverse = (Value.object members).tokens := by simpa [finish?] using ended
    rw [← all, List.reverse_reverse]
  | word taken =>
    have last := congrArg List.getLast? (Option.some.inj ended)
    simp [Value.getLast?_tokens_object] at last
  | string | escape | code => cases ended

/-- A document that is complete takes no further token. -/
theorem Builder.step_complete (v : Value) (t : Token) : step (.complete v []) t = none := by
  cases t <;> rfl

namespace Value

/-- Nothing is built of a document's tokens and more of them. -/
theorem ofTokens?_append {v : Value} (spelled : v.Spelled) {ts : List Token} (more : ts ≠ []) :
    ofTokens? (v.tokens ++ ts) = none := by
  cases ts with
  | nil => exact absurd rfl more
  | cons t ts =>
    rw [ofTokens?, Builder.foldlM_append_of (builds_of_spelled spelled []), List.foldlM_cons,
      Builder.step_complete]
    rfl

/-! ## Behind an object -/

variable {members : List (Octets × Value)} {bs : Octets}

/-- The tokens of octets that begin with an object. -/
theorem tokens?_object_append (text : (object members).Text bs) (t : Octets) :
    tokens? (bs ++ t) = Scanner.run? ⟨(object members).tokens.reverse, .between⟩ t :=
  Scanner.run?_append (Scanner.scan_object text) t

/-- White space behind an object leaves it what it is. -/
theorem read?_object_space (text : (object members).Text bs) {t : Octets}
    (space : ∀ b ∈ t, Scanner.isSpace b = true) : read? (bs ++ t) = some (object members) := by
  have tokens : tokens? (bs ++ t) = some (object members).tokens := by
    have blank : Scanner.run? ⟨(object members).tokens.reverse, .between⟩ (t ++ []) = _ :=
      Scanner.run?_blank space []
    rw [List.append_nil] at blank
    rw [tokens?_object_append text, blank]
    simp [Scanner.run?, Scanner.finish?]
  rw [read?, tokens, Option.bind_some]
  exact ofTokens?_tokens text.spelled

/-- With anything else behind it there is no document. -/
theorem read?_object_more (text : (object members).Text bs) {t : Octets}
    (more : ¬∀ b ∈ t, Scanner.isSpace b = true) : read? (bs ++ t) = none := by
  rw [read?, tokens?_object_append text]
  cases ran : Scanner.run? ⟨(object members).tokens.reverse, .between⟩ t with
  | none => rfl
  | some found =>
    obtain ⟨ts, rfl, spelled⟩ := Scanner.spellsFrom_of_run? _ _ ran
    cases spelled with
    | between spells =>
      have some : ts ≠ [] := by
        rintro rfl
        exact more spells.space_of_nil
      rw [List.reverse_reverse, Option.bind_some]
      exact ofTokens?_append text.spelled some
    | string _ midst => cases midst

/-! ## In front of the last brace -/

/-- The text of an object stands between two braces, in every layout. -/
theorem render_object (lay : Layout) (members : List (Octets × Value)) :
    ∃ inner, (object members).render lay = openBrace :: (inner ++ [closeBrace]) := by
  cases members with
  | nil => exact ⟨[], by simp [render, renderAt]⟩
  | cons m members =>
    obtain ⟨k, v⟩ := m
    simp only [render, renderAt, List.cons_append]
    exact ⟨_, rfl⟩

/-- An object whose end is cut off is no document.  What is left of it would
be an object, with more than white space behind it. -/
theorem read?_object_cut {inner p q : Octets} {v : Value}
    (found : read? (openBrace :: (inner ++ [closeBrace])) = some v)
    (split : openBrace :: (inner ++ [closeBrace]) = p ++ q) (cut : q ≠ []) : read? p = none := by
  have closed : closeBrace ∈ q := by
    have last := congrArg List.getLast? split
    rw [← List.cons_append, List.getLast?_append, List.getLast?_append,
      List.getLast?_eq_some_getLast cut] at last
    have same : closeBrace = q.getLast cut := by simpa using last
    exact same ▸ List.getLast_mem cut
  cases p with
  | nil => rfl
  | cons b p =>
    obtain rfl : openBrace = b := (List.cons.inj split).1
    cases whole : read? (openBrace :: p) with
    | none => rfl
    | some w =>
      have brace : read? ([] ++ openBrace :: p) = some w := whole
      obtain ⟨members, rfl⟩ := read?_of_brace (by simp) brace
      have none : read? ((openBrace :: p) ++ q) = none := by
        refine read?_object_more (read?_eq_some_iff.1 whole) fun space => ?_
        exact absurd (space closeBrace closed) (by decide)
      rw [← split, found] at none
      cases none

end Value

end AgentState.Json
