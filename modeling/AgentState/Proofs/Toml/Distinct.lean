/-
AgentState.Proofs.Toml.Distinct — no table of a document has a key twice.

This holds of every document that is read, however deep the table lies and
whatever wrote it: headers, keys with points or inline tables.  So the fields of
a record are found by their names, and their order does not matter.

* `Value.Distinct` — each key is there once, in the value and in all that it
  holds; `Item.Distinct`, `Entries.Distinct` — the same of a draft.
* `Entries.Distinct.within` — what keeps keys apart at the end of a path does so
  in the whole; `Draft.put_distinct`, `Draft.openTable_distinct`,
  `Draft.openElement_distinct` — so no statement gives a key twice.
* `value?_distinct` — values are read with keys of their own.
* `read?_distinct` — and so are documents.
-/
import AgentState.Proofs.Toml.Tables

namespace AgentState.Toml

/-- Each key is there once, in a value and in all that it holds. -/
inductive Value.Distinct : Value → Prop where
  | text (s : String) : Distinct (.text s)
  | integer (n : Int) : Distinct (.integer n)
  | real (x : Float) : Distinct (.real x)
  | boolean (b : Bool) : Distinct (.boolean b)
  | moment (s : String) : Distinct (.moment s)
  | array {items : List Value} (each : ∀ v ∈ items, Distinct v) : Distinct (.array items)
  | table {fields : List (String × Value)} (once : (fields.map Prod.fst).Nodup)
      (each : ∀ f ∈ fields, Distinct f.2) : Distinct (.table fields)

/-- Each key is there once, in an item and in all that it holds. -/
inductive Item.Distinct : Item → Prop where
  | value {v : Value} (distinct : v.Distinct) : Distinct (.value v)
  | table {origin : Origin} {es : List (String × Item)} (once : (es.map Prod.fst).Nodup)
      (each : ∀ e ∈ es, Distinct e.2) : Distinct (.table origin es)
  | tables {finished : List (List (String × Item))} {last : List (String × Item)}
      (once : ∀ es ∈ finished ++ [last], (es.map Prod.fst).Nodup)
      (each : ∀ es ∈ finished ++ [last], ∀ e ∈ es, Distinct e.2) :
      Distinct (.tables finished last)

namespace Entries

/-- Each key of a table is there once, and so in all that it holds. -/
structure Distinct (es : Entries) : Prop where
  once : (es.map Prod.fst).Nodup
  each : ∀ e ∈ es, e.2.Distinct

/-! ## Finished tables -/

theorem values_eq (es : Entries) : values es = es.map fun e => (e.1, itemValue e.2) := by
  induction es with
  | nil => rfl
  | cons e es ih => rw [values, ih, List.map_cons]

theorem tables_eq (ess : List (List (String × Item))) :
    tables ess = ess.map fun es => .table (values es) := by
  induction ess with
  | nil => rfl
  | cons es ess ih => rw [tables, ih, List.map_cons]

theorem distinct_values {es : Entries} (once : (es.map Prod.fst).Nodup)
    (each : ∀ e ∈ es, (itemValue e.2).Distinct) : (Value.table (values es)).Distinct := by
  rw [values_eq]
  refine .table ?_ fun f mem => ?_
  · rwa [List.map_map]
  · obtain ⟨e, here, rfl⟩ := List.mem_map.1 mem
    exact each e here

theorem distinct_itemValue {item : Item} (h : item.Distinct) : (itemValue item).Distinct := by
  induction h with
  | value distinct => exact distinct
  | table once _ ih => exact distinct_values once ih
  | @tables finished last once _ ih =>
    have all : tables finished ++ [.table (values last)] = tables (finished ++ [last]) := by
      simp [tables_eq]
    rw [itemValue, all, tables_eq]
    refine .array fun v mem => ?_
    obtain ⟨es, here, rfl⟩ := List.mem_map.1 mem
    exact distinct_values (once es here) (ih es here)

namespace Distinct

theorem empty : Distinct [] := ⟨List.nodup_nil, nofun⟩

theorem value {es : Entries} (h : es.Distinct) : es.value.Distinct :=
  distinct_values h.once fun e mem => distinct_itemValue (h.each e mem)

theorem table {es : Entries} (h : es.Distinct) (origin : Origin) :
    (Item.table origin es).Distinct := .table h.once h.each

theorem lookup {es : Entries} (h : es.Distinct) {k : String} {item : Item}
    (found : es.lookup k = some item) : item.Distinct := by
  obtain ⟨before, behind, split, -⟩ := List.lookup_eq_some_iff.1 found
  exact h.each (k, item) (by simp [split])

/-! ## Changes -/

theorem add {es : Entries} (h : es.Distinct) {k : String} (new : es.lookup k = none) {item : Item}
    (distinct : item.Distinct) : Distinct (es ++ [(k, item)]) where
  once := by
    rw [List.map_append, List.nodup_append]
    refine ⟨h.once, by simp, fun l here m last => ?_⟩
    obtain ⟨e, mem, rfl⟩ := List.mem_map.1 here
    obtain rfl : m = k := by simpa using last
    have other := List.lookup_eq_none_iff.1 new e mem
    exact fun same => by simp [same] at other
  each := by
    intro e mem
    rcases List.mem_append.1 mem with mem | mem
    · exact h.each e mem
    · obtain rfl := List.mem_singleton.1 mem
      exact distinct

theorem replace {es : Entries} (h : es.Distinct) (k : String) {item : Item}
    (distinct : item.Distinct) : Distinct (es.replace k item) where
  once := by
    have keys : (es.replace k item).map Prod.fst = es.map Prod.fst := by
      rw [Entries.replace, List.map_map]
      refine List.map_congr_left fun e _ => ?_
      by_cases same : e.1 = k <;> simp [same]
    rw [keys]
    exact h.once
  each := by
    intro e mem
    obtain ⟨old, here, rfl⟩ := List.mem_map.1 mem
    split
    · exact distinct
    · exact h.each old here

/-- What keeps keys apart at the end of a path does so in the whole. -/
theorem within {dotted : Bool} {change : Origin → Entries → Option Entries}
    (keeps : ∀ origin (es es' : Entries), es.Distinct → change origin es = some es' → es'.Distinct)
    {path : List String} {origin : Origin} {es es' : Entries} (h : es.Distinct)
    (changed : Entries.within dotted change path origin es = some es') : es'.Distinct := by
  induction path generalizing origin es es' with
  | nil => exact keeps origin es es' h changed
  | cons k path ih =>
    rw [Entries.within] at changed
    cases found : es.lookup k with
    | none =>
      simp only [found] at changed
      obtain ⟨inner, entered, same⟩ := Option.bind_eq_some_iff.1 changed
      obtain rfl := Option.some.inj same
      exact h.add found ((ih empty entered).table _)
    | some item =>
      have distinct := h.lookup found
      cases distinct with
      | value =>
        simp only [found] at changed
        cases changed
      | table once each =>
        simp only [found] at changed
        split at changed
        · cases changed
        · obtain ⟨inner, entered, same⟩ := Option.bind_eq_some_iff.1 changed
          obtain rfl := Option.some.inj same
          exact h.replace k ((ih ⟨once, each⟩ entered).table _)
      | @tables finished last once each =>
        simp only [found] at changed
        obtain ⟨last', entered, same⟩ := Option.bind_eq_some_iff.1 changed
        obtain rfl := Option.some.inj same
        have inner := ih ⟨once last (by simp), each last (by simp)⟩ entered
        refine h.replace k (.tables (fun es mem => ?_) fun es mem => ?_) <;>
          rcases List.mem_append.1 mem with here | here
        · exact once es (List.mem_append_left _ here)
        · exact List.mem_singleton.1 here ▸ inner.once
        · exact each es (List.mem_append_left _ here)
        · exact List.mem_singleton.1 here ▸ inner.each

theorem put {es es' : Entries} (h : es.Distinct) {path : List String} {name : String} {v : Value}
    (distinct : v.Distinct) (put : es.put? path name v = some es') : es'.Distinct := by
  refine within (fun origin es es' h changed => ?_) h put
  split at changed
  · cases changed
  · rw [add?] at changed
    split at changed
    · next new =>
      obtain rfl := Option.some.inj changed
      exact h.add new (.value distinct)
    · cases changed

end Distinct

end Entries

/-- What a statement says keeps the keys of a draft apart. -/
theorem Draft.put_distinct {d d' : Draft} (h : d.root.Distinct) {path : List String}
    {name : String} {v : Value} (distinct : v.Distinct) (put : d.put? path name v = some d') :
    d'.root.Distinct := by
  obtain ⟨root, changed, same⟩ := Option.bind_eq_some_iff.1 put
  obtain rfl := Option.some.inj same
  exact h.within (fun _ _ _ h put => h.put distinct put) changed

theorem Draft.openTable_distinct {d d' : Draft} (h : d.root.Distinct) {path : List String}
    {name : String} (opened : d.openTable? path name = some d') : d'.root.Distinct := by
  obtain ⟨root, changed, same⟩ := Option.bind_eq_some_iff.1 opened
  obtain rfl := Option.some.inj same
  refine h.within (fun _ es es' h changed => ?_) changed
  split at changed
  · next new =>
    obtain rfl := Option.some.inj changed
    exact h.add new (Entries.Distinct.empty.table _)
  · next inner found =>
    obtain rfl := Option.some.inj changed
    cases h.lookup found with
    | table once each => exact h.replace name (.table once each)
  · cases changed

theorem Draft.openElement_distinct {d d' : Draft} (h : d.root.Distinct) {path : List String}
    {name : String} (opened : d.openElement? path name = some d') : d'.root.Distinct := by
  obtain ⟨root, changed, same⟩ := Option.bind_eq_some_iff.1 opened
  obtain rfl := Option.some.inj same
  refine h.within (fun _ es es' h changed => ?_) changed
  split at changed
  · next new =>
    obtain rfl := Option.some.inj changed
    exact h.add new (.tables (by simp) (by simp))
  · next finished last found =>
    obtain rfl := Option.some.inj changed
    cases h.lookup found with
    | tables once each =>
      refine h.replace name (.tables (fun es mem => ?_) fun es mem => ?_) <;>
        rcases List.mem_append.1 mem with here | here
      · exact once es here
      · simp [List.mem_singleton.1 here]
      · exact each es here
      · simp [List.mem_singleton.1 here]
  · cases changed

/-! ## Values -/

/-- Whatever a reader takes from the front of a text keeps keys apart. -/
def ReadsDistinct (one : ValueReader) : Prop :=
  ∀ cs v rest, one cs = some (v, rest) → v.Distinct

theorem distinct_of_integer? {n : Int} {v : Value} (h : integer? n = some v) : v.Distinct := by
  unfold integer? at h
  split at h
  · obtain rfl := Option.some.inj h
    exact .integer n
  · cases h

theorem distinct_of_real? {negative : Bool} {ds fs : List Nat} {e : Int} {v : Value}
    (h : real? negative ds fs e = some v) : v.Distinct := by
  simp only [real?] at h
  split at h
  · obtain rfl := Option.some.inj h
    exact .real _
  · split at h
    · cases h
    · obtain rfl := Option.some.inj h
      exact .real _

theorem radixInteger?_distinct (base : Nat) : ReadsDistinct (radixInteger? base) := by
  intro cs v rest h
  obtain ⟨⟨ds, rest⟩, -, h⟩ := Option.bind_eq_some_iff.1 h
  obtain ⟨v, read, same⟩ := Option.bind_eq_some_iff.1 h
  cases same
  exact distinct_of_integer? read

theorem unsigned?_distinct (negative : Bool) : ReadsDistinct (unsigned? negative) := by
  intro cs v rest h
  obtain ⟨⟨ds, behind⟩, -, h⟩ := Option.bind_eq_some_iff.1 h
  dsimp only at h
  split at h
  · obtain ⟨⟨fs, behind⟩, -, h⟩ := Option.bind_eq_some_iff.1 h
    obtain ⟨⟨e, behind⟩, -, h⟩ := Option.bind_eq_some_iff.1 h
    obtain ⟨v, read, same⟩ := Option.bind_eq_some_iff.1 h
    cases same
    exact distinct_of_real? read
  · obtain ⟨⟨e, behind⟩, -, h⟩ := Option.bind_eq_some_iff.1 h
    cases e with
    | some e =>
      obtain ⟨v, read, same⟩ := Option.bind_eq_some_iff.1 h
      cases same
      exact distinct_of_real? read
    | none =>
      obtain ⟨v, read, same⟩ := Option.bind_eq_some_iff.1 h
      cases same
      exact distinct_of_integer? read

theorem number?_distinct : ReadsDistinct number? := by
  intro cs v rest h
  unfold number? at h
  split at h
  · exact radixInteger?_distinct 16 _ _ _ h
  · exact radixInteger?_distinct 8 _ _ _ h
  · exact radixInteger?_distinct 2 _ _ _ h
  · dsimp only at h
    split at h
    · next found special =>
      obtain rfl := Option.some.inj h
      unfold special? at special
      split at special <;> cases special <;> exact .real _
    · exact unsigned?_distinct _ _ _ _ h

theorem scalar?_distinct : ReadsDistinct scalar? := by
  intro cs v rest h
  unfold scalar? at h
  split at h
  · cases h
    exact .boolean true
  · cases h
    exact .boolean false
  · obtain ⟨r, -, same⟩ := Option.map_eq_some_iff.1 h
    cases same
    exact .text _
  · obtain ⟨r, -, same⟩ := Option.map_eq_some_iff.1 h
    cases same
    exact .text _
  · split at h
    · obtain ⟨r, -, same⟩ := Option.map_eq_some_iff.1 h
      cases same
      exact .moment _
    · exact number?_distinct _ _ _ h

theorem items?_distinct {one : ValueReader} (each : ReadsDistinct one) {room : Nat}
    {cs rest : List Char} {vs : List Value} (h : items? one room cs = some (vs, rest)) :
    ∀ v ∈ vs, v.Distinct := by
  induction room generalizing cs vs rest with
  | zero => cases h
  | succ room ih =>
    rw [items?] at h
    split at h
    · cases h
      exact nofun
    · obtain ⟨⟨v, behind⟩, read, h⟩ := Option.bind_eq_some_iff.1 h
      dsimp only at h
      split at h
      · cases h
        exact List.forall_mem_singleton.2 (each _ _ _ read)
      · obtain ⟨⟨vs, behind⟩, more, same⟩ := Option.map_eq_some_iff.1 h
        cases same
        exact List.forall_mem_cons.2 ⟨each _ _ _ read, ih more⟩
      · cases h

theorem pairs?_distinct {one : ValueReader} (each : ReadsDistinct one) {room : Nat}
    {cs rest : List Char} {ps : List ((List String × String) × Value)}
    (h : pairs? one room cs = some (ps, rest)) : ∀ p ∈ ps, p.2.Distinct := by
  induction room generalizing cs ps rest with
  | zero => cases h
  | succ room ih =>
    obtain ⟨⟨key, behind⟩, -, h⟩ := Option.bind_eq_some_iff.1 h
    dsimp only at h
    split at h
    · obtain ⟨⟨v, behind⟩, read, h⟩ := Option.bind_eq_some_iff.1 h
      dsimp only at h
      split at h
      · cases h
        exact List.forall_mem_singleton.2 (each _ _ _ read)
      · obtain ⟨⟨ps, behind⟩, more, same⟩ := Option.map_eq_some_iff.1 h
        cases same
        exact List.forall_mem_cons.2 ⟨each _ _ _ read, ih more⟩
      · cases h
    · cases h

theorem puts_distinct {ps : List ((List String × String) × Value)}
    (each : ∀ p ∈ ps, p.2.Distinct) {es es' : Entries} (h : es.Distinct)
    (put : ps.foldlM (fun (es : Entries) p => es.put? p.1.1 p.1.2 p.2) es = some es') :
    es'.Distinct := by
  induction ps generalizing es with
  | nil =>
    cases put
    exact h
  | cons p ps ih =>
    obtain ⟨first, one, rest⟩ := Option.bind_eq_some_iff.1 put
    obtain ⟨head, tail⟩ := List.forall_mem_cons.1 each
    exact ih tail (h.put head one) rest

theorem inlineTable?_distinct {one : ValueReader} (each : ReadsDistinct one) :
    ReadsDistinct (inlineTable? one) := by
  intro cs v rest h
  unfold inlineTable? at h
  split at h
  · cases h
    exact .table List.nodup_nil nofun
  · obtain ⟨⟨ps, behind⟩, read, h⟩ := Option.bind_eq_some_iff.1 h
    obtain ⟨es, put, same⟩ := Option.bind_eq_some_iff.1 h
    cases same
    exact (puts_distinct (pairs?_distinct each read) .empty put).value

/-- Values are read with keys of their own, however deep they lie. -/
theorem value?_distinct (depth : Nat) : ReadsDistinct (value? depth) := by
  induction depth with
  | zero =>
    intro cs v rest h
    unfold value? at h
    split at h
    · cases h
    · cases h
    · exact scalar?_distinct _ _ _ h
  | succ depth ih =>
    intro cs v rest h
    unfold value? at h
    split at h
    · obtain ⟨⟨vs, behind⟩, read, same⟩ := Option.map_eq_some_iff.1 h
      cases same
      exact .array (items?_distinct ih read)
    · exact inlineTable?_distinct ih _ _ _ h
    · exact scalar?_distinct _ _ _ h

/-- What lies in a value has keys of its own, when the value has. -/
theorem Value.Distinct.at? {v w : Value} (h : v.Distinct) {path : List String}
    (found : v.at? path = some w) : w.Distinct := by
  induction path generalizing v with
  | nil =>
    rw [Value.at?] at found
    exact Option.some.inj found ▸ h
  | cons k path ih =>
    cases h with
    | text | integer | real | boolean | moment | array => cases found
    | table once each =>
      obtain ⟨next, here, found⟩ := Option.bind_eq_some_iff.1 found
      exact ih (each _ ((lookup_eq_some_iff_mem once).1 here)) found

/-! ## Documents -/

theorem header?_distinct {d d' : Draft} (h : d.root.Distinct) {cs rest : List Char}
    (read : header? d cs = some (d', rest)) : d'.root.Distinct := by
  unfold header? at read
  split at read <;> obtain ⟨⟨⟨path, name⟩, behind⟩, -, read⟩ := Option.bind_eq_some_iff.1 read <;>
    dsimp only at read <;> split at read
  · obtain ⟨d', opened, same⟩ := Option.map_eq_some_iff.1 read
    cases same
    exact Draft.openElement_distinct h opened
  · cases read
  · obtain ⟨d', opened, same⟩ := Option.map_eq_some_iff.1 read
    cases same
    exact Draft.openTable_distinct h opened
  · cases read

theorem pair?_distinct {d d' : Draft} (h : d.root.Distinct) {cs rest : List Char}
    (read : pair? d cs = some (d', rest)) : d'.root.Distinct := by
  obtain ⟨⟨⟨path, name⟩, behind⟩, -, read⟩ := Option.bind_eq_some_iff.1 read
  dsimp only at read
  split at read
  · obtain ⟨⟨v, behind⟩, value, read⟩ := Option.bind_eq_some_iff.1 read
    obtain ⟨d', put, same⟩ := Option.map_eq_some_iff.1 read
    cases same
    exact Draft.put_distinct h (value?_distinct _ _ _ _ value) put
  · cases read

theorem line?_distinct {d d' : Draft} (h : d.root.Distinct) {cs rest : List Char}
    (read : line? d cs = some (d', rest)) : d'.root.Distinct := by
  unfold line? at read
  split at read
  · exact header?_distinct h read
  · cases read
    exact h
  · cases read
    exact h
  · cases read
    exact h
  · exact pair?_distinct h read

theorem lines?_distinct {room : Nat} {d d' : Draft} (h : d.root.Distinct) {cs : List Char}
    (read : lines? room d cs = some d') : d'.root.Distinct := by
  induction room generalizing d cs with
  | zero => cases read
  | succ room ih =>
    rw [lines?] at read
    split at read
    · cases read
      exact h
    · obtain ⟨⟨d₁, behind⟩, line, read⟩ := Option.bind_eq_some_iff.1 read
      obtain ⟨behind, -, read⟩ := Option.bind_eq_some_iff.1 read
      exact ih (line?_distinct h line) read

/-- No table of a document that is read has a key twice. -/
theorem read?_distinct {text : String} {root : Value} (read : read? text = some root) :
    root.Distinct := by
  obtain ⟨d, lines, rfl⟩ := Option.map_eq_some_iff.1 read
  exact (lines?_distinct .empty lines).value

end AgentState.Toml
