/-
AgentState.Proofs.Json.Builder — a document is built from its tokens.

* `Builder.Builds` — the builder makes a document of its tokens, inside
  of any open containers.
* `Value.builds_of_spelled` — it does so for every document that is
  spelled well.
* `Value.read?_render` — a printed document is read back, in every layout
  that puts nothing but white space between tokens.
-/
import AgentState.Proofs.Json.Scanner

namespace AgentState.Json

namespace Builder

/-- The builder makes `v` of its tokens, in any open containers. -/
def Builds (v : Value) : Prop :=
  ∀ frames, v.tokens.foldlM step (.value frames) = some (.complete v frames)

theorem foldlM_cons_of {s s' : Builder} {t : Token} (h : step s t = some s') (ts : List Token) :
    (t :: ts).foldlM step s = ts.foldlM step s' := by
  rw [List.foldlM_cons, h]
  rfl

theorem foldlM_append_of {s s' : Builder} {as : List Token} (h : as.foldlM step s = some s')
    (bs : List Token) : (as ++ bs).foldlM step s = bs.foldlM step s' := by
  rw [List.foldlM_append, h]
  rfl

/-- No document begins with the end of an array. -/
theorem tokens_cons (v : Value) : ∃ t ts, v.tokens = t :: ts ∧ t ≠ .closeArray := by
  cases v with
  | null => exact ⟨_, _, rfl, by simp⟩
  | bool b => cases b <;> exact ⟨_, _, rfl, by simp⟩
  | number lexeme => exact ⟨_, _, rfl, by simp⟩
  | string raw => exact ⟨_, _, rfl, by simp⟩
  | array items => cases items <;> exact ⟨_, _, rfl, by simp⟩
  | object members => cases members <;> exact ⟨_, _, rfl, by simp⟩

/-- The first item of an array is built like any other. -/
theorem builds_firstItem {v : Value} (h : Builds v) (frames : List Frame) :
    v.tokens.foldlM step (.firstItem frames) = some (.complete v (.array [] :: frames)) := by
  obtain ⟨t, ts, hts, ht⟩ := tokens_cons v
  have hsame : step (.firstItem frames) t = step (.value (.array [] :: frames)) t := by
    cases t <;> first | exact absurd rfl ht | rfl
  have hv := h (.array [] :: frames)
  rw [hts] at hv ⊢
  rw [List.foldlM_cons, hsame]
  exact hv

/-- The items after the first, and the end of the array. -/
theorem builds_items {rest : List Value} (h : ∀ v ∈ rest, Builds v) (first : Value)
    (items : List Value) (frames : List Frame) :
    (itemTokens rest ++ [Token.closeArray]).foldlM step
        (.complete first (.array items :: frames)) =
      some (.complete (.array (items.reverse ++ first :: rest)) frames) := by
  induction rest generalizing first items with
  | nil =>
    have hclose : step (.complete first (.array items :: frames)) .closeArray =
        some (.complete (.array (first :: items).reverse) frames) := rfl
    rw [itemTokens, List.nil_append, foldlM_cons_of hclose]
    simp
  | cons v rest ih =>
    have hcomma : step (.complete first (.array items :: frames)) .comma =
        some (.value (.array (first :: items) :: frames)) := rfl
    have hv := h v (by simp)
    have hrest := ih (fun w hw => h w (by simp [hw])) v (first :: items)
    simp only [itemTokens, List.cons_append, List.append_assoc]
    rw [foldlM_cons_of hcomma, foldlM_append_of (hv _), hrest]
    simp

/-- The members after the first, and the end of the object. -/
theorem builds_members {rest : List (Octets × Value)} (h : ∀ m ∈ rest, Builds m.2)
    (k : Octets) (v : Value) (members : List (Octets × Value)) (frames : List Frame) :
    (memberTokens rest ++ [Token.closeObject]).foldlM step
        (.complete v (.member members k :: frames)) =
      some (.complete (.object (members.reverse ++ (k, v) :: rest)) frames) := by
  induction rest generalizing k v members with
  | nil =>
    have hclose : step (.complete v (.member members k :: frames)) .closeObject =
        some (.complete (.object ((k, v) :: members).reverse) frames) := rfl
    rw [memberTokens, List.nil_append, foldlM_cons_of hclose]
    simp
  | cons m rest ih =>
    obtain ⟨k', v'⟩ := m
    have hcomma : step (.complete v (.member members k :: frames)) .comma =
        some (.key ((k, v) :: members) frames) := rfl
    have hkey : step (.key ((k, v) :: members) frames) (.string k') =
        some (.colon ((k, v) :: members) k' frames) := rfl
    have hcolon : step (.colon ((k, v) :: members) k' frames) .colon =
        some (.value (.member ((k, v) :: members) k' :: frames)) := rfl
    have hv := h (k', v') (by simp)
    have hrest := ih (fun n hn => h n (by simp [hn])) k' v' ((k, v) :: members)
    simp only [memberTokens, List.cons_append, List.append_assoc]
    rw [foldlM_cons_of hcomma, foldlM_cons_of hkey, foldlM_cons_of hcolon,
      foldlM_append_of (hv _), hrest]
    simp

theorem builds_array {items : List Value} (h : ∀ v ∈ items, Builds v) : Builds (.array items) := by
  intro frames
  have hopen : step (.value frames) .openArray = some (.firstItem frames) := rfl
  cases items with
  | nil =>
    rw [Value.tokens, foldlM_cons_of hopen]
    rfl
  | cons v items =>
    have hv := builds_firstItem (h v (by simp)) frames
    have hitems := builds_items (fun w hw => h w (List.mem_cons_of_mem v hw)) v [] frames
    simp only [Value.tokens, List.cons_append, List.append_assoc]
    rw [foldlM_cons_of hopen, foldlM_append_of hv, hitems]
    rfl

theorem builds_object {members : List (Octets × Value)} (h : ∀ m ∈ members, Builds m.2) :
    Builds (.object members) := by
  intro frames
  have hopen : step (.value frames) .openObject = some (.firstKey frames) := rfl
  cases members with
  | nil =>
    rw [Value.tokens, foldlM_cons_of hopen]
    rfl
  | cons m members =>
    obtain ⟨k, v⟩ := m
    have hkey : step (.firstKey frames) (.string k) = some (.colon [] k frames) := rfl
    have hcolon : step (.colon [] k frames) .colon = some (.value (.member [] k :: frames)) := rfl
    have hv := h (k, v) (by simp)
    have hmembers :=
      builds_members (fun n hn => h n (List.mem_cons_of_mem (k, v) hn)) k v [] frames
    simp only [Value.tokens, List.cons_append, List.append_assoc]
    rw [foldlM_cons_of hopen, foldlM_cons_of hkey, foldlM_cons_of hcolon,
      foldlM_append_of (hv _), hmembers]
    rfl

/-- A number's spelling is none of the three names. -/
theorem scalar?_number {lexeme : Octets} (h : (Numeral.read? lexeme).isSome = true) :
    scalar? lexeme = some (.number lexeme) := by
  have hname : ∀ word, Numeral.read? word = none → lexeme ≠ word := by
    intro word hnone heq
    rw [heq, hnone] at h
    exact absurd h (by simp)
  have hnull := hname (octetsOf "null") rfl
  have htrue := hname (octetsOf "true") rfl
  have hfalse := hname (octetsOf "false") rfl
  simp [scalar?, hnull, htrue, hfalse, h]

end Builder

theorem Value.builds_of_spelled {v : Value} (h : v.Spelled) : Builder.Builds v := by
  induction h with
  | null => intro frames; rfl
  | bool b => intro frames; cases b <;> rfl
  | number h =>
    intro frames
    simp [tokens, Builder.step, Builder.begin?, Builder.scalar?_number h.reads]
  | string h =>
    intro frames
    simp [tokens, Builder.step, Builder.begin?]
  | array _ ih => exact Builder.builds_array ih
  | object _ _ ih => exact Builder.builds_object ih

theorem Value.ofTokens?_tokens {v : Value} (h : v.Spelled) : ofTokens? v.tokens = some v := by
  rw [ofTokens?, Value.builds_of_spelled h []]
  rfl

/-- A printed document is read back. -/
theorem Value.read?_render {lay : Layout} (hlay : lay.Blank) {v : Value} (h : v.Spelled) :
    read? (v.render lay) = some v := by
  rw [read?, Value.tokens?_render hlay h, Option.bind_some]
  exact Value.ofTokens?_tokens h

end AgentState.Json
