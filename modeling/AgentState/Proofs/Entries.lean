/-
AgentState.Proofs.Entries — entries under keys of their own.

* `lookup_eq_some_iff_mem` — a look-up finds every entry, when no key
  occurs twice.
* `lookup_of_perm` — where a key occurs once, the order of the entries does
  not matter to it.
* `bind_of_some` — one step of a reader that succeeds.
* `Record.ofNamed?_of_once`, `Record.required?_of_mem`, `Record.optional?_of_mem`,
  `Record.orElse?_of_mem` — such entries are the fields of a record, and each
  is found there under its name.
* `TextMap.ofList_entries` — a map is made again by setting its entries
  in their order.
* `TextMap.entries_ofList_subset` — a map has no entries but those that
  were set.
* `TextMap.get?_of_perm` — what is under a key depends on which entries a
  map has and not on their order.
-/
import AgentState.Record
import AgentState.TextMap
import Mathlib.Data.List.Nodup
import Mathlib.Data.List.Perm.Basic

namespace AgentState

/-- A look-up finds every entry, when no key occurs twice. -/
theorem lookup_eq_some_iff_mem {β : Type} {es : List (String × β)}
    (h : (es.map Prod.fst).Nodup) {k : String} {v : β} :
    es.lookup k = some v ↔ (k, v) ∈ es := by
  rw [List.lookup_eq_some_iff]
  constructor
  · intro h'
    obtain ⟨before, after, rfl, _⟩ := h'
    simp
  · intro hmem
    obtain ⟨before, after, rfl⟩ := List.append_of_mem hmem
    refine ⟨before, after, rfl, fun e he => ?_⟩
    rw [List.map_append, List.nodup_append] at h
    have hne := h.2.2 e.1 (List.mem_map_of_mem he) k (by simp)
    simpa using hne.symm

/-- A look-up finds the first entry under the key. -/
theorem lookup_eq_head? {β : Type} (k : String) (es : List (String × β)) :
    es.lookup k = (es.filter (fun e => e.1 == k)).head?.map Prod.snd := by
  induction es with
  | nil => rfl
  | cons e es ih =>
    obtain ⟨k', v⟩ := e
    by_cases h : k' = k
    · simp [h]
    · have h' : (k == k') = false := by simpa using Ne.symm h
      simp [List.lookup_cons, h, h', ih]

/-- A key of its own is under one entry at most. -/
theorem length_filter_key_le {β : Type} {es : List (String × β)} (h : (es.map Prod.fst).Nodup)
    (k : String) : (es.filter (fun e => e.1 == k)).length ≤ 1 := by
  have hcount := List.nodup_iff_count.1 h k
  rw [List.count, List.countP_map, List.countP_eq_length_filter] at hcount
  exact hcount

/-- Where a key occurs once at most, the order of the entries does not matter
to it. -/
theorem lookup_of_perm {β : Type} {es es' : List (String × β)} (perm : es.Perm es') {k : String}
    (once : (es'.filter (fun e => e.1 == k)).length ≤ 1) : es.lookup k = es'.lookup k := by
  have same := perm.filter (fun e => e.1 == k)
  rw [lookup_eq_head?, lookup_eq_head?]
  generalize es'.filter (fun e => e.1 == k) = found at same once
  match found with
  | [] => rw [List.perm_nil.1 same]
  | [e] => rw [List.perm_singleton.1 same]
  | _ :: _ :: _ => simp at once

/-- A look-up among the entries under some keys. -/
theorem lookup_filter_key {β : Type} (given : String → Bool) (k : String)
    (es : List (String × β)) :
    (es.filter (fun e => given e.1)).lookup k = if given k then es.lookup k else none := by
  rw [lookup_eq_head?, lookup_eq_head?, List.filter_filter]
  cases h : given k with
  | true =>
    have same : es.filter (fun e => e.1 == k && given e.1) = es.filter (fun e => e.1 == k) := by
      refine List.filter_congr fun e _ => ?_
      by_cases named : e.1 = k <;> simp [named, h]
    rw [same]
    rfl
  | false =>
    have none : es.filter (fun e => e.1 == k && given e.1) = [] := by
      refine List.filter_eq_nil_iff.2 fun e _ => ?_
      by_cases named : e.1 = k <;> simp [named, h]
    rw [none]
    rfl

/-! ## Records -/

/-- One step of a reader that succeeds. -/
theorem bind_of_some {α β : Type} {x : Option α} {f : α → Option β} {a : α} {r : Option β}
    (hx : x = some a) (hf : f a = r) : (x >>= f) = r := by
  rw [hx]
  exact hf

namespace Record

variable {α β : Type}

/-- Fields of which each that is asked for occurs once at most make a
record. -/
theorem ofNamed?_of_once {names : List String} {fields : List (String × β)}
    (once : ∀ n ∈ names, (fields.filter (fun f => f.1 == n)).length ≤ 1) :
    ofNamed? names fields = some ⟨true, fun n => fields.lookup n⟩ := by
  rw [ofNamed?, if_pos]
  simpa using once

/-- Fields whose names differ make a record, whatever the names that are
asked for. -/
theorem ofNamed?_of_nodup {fields : List (String × β)} (h : (fields.map Prod.fst).Nodup)
    (names : List String) :
    ofNamed? names fields = some ⟨true, fun n => fields.lookup n⟩ :=
  ofNamed?_of_once fun n _ => length_filter_key_le h n

/-- Fields that make a record make the same one for fewer names. -/
theorem ofNamed?_of_subset {names asked : List String} {fields : List (String × β)}
    {r : Record β} (asks : asked ⊆ names) (whole : ofNamed? names fields = some r) :
    ofNamed? asked fields = some r := by
  unfold ofNamed? at whole
  split at whole
  · next once =>
    cases whole
    exact ofNamed?_of_once fun n mem => by simpa using List.all_eq_true.1 once n (asks mem)
  · cases whole

theorem required?_of_mem {fields : List (String × β)} (h : (fields.map Prod.fst).Nodup)
    {name : String} {v : β} (hmem : (name, v) ∈ fields) (read? : β → Option α) :
    required? ⟨true, fun n => fields.lookup n⟩ read? name = read? v := by
  have hfind := (lookup_eq_some_iff_mem h).2 hmem
  simp [required?, hfind]

theorem optional?_of_mem {fields : List (String × β)} (h : (fields.map Prod.fst).Nodup)
    {name : String} {v : β} (hmem : (name, v) ∈ fields) (read? : β → Option (Option α)) :
    optional? ⟨true, fun n => fields.lookup n⟩ read? name = read? v := by
  have hfind := (lookup_eq_some_iff_mem h).2 hmem
  simp [optional?, hfind]

theorem orElse?_of_mem {fields : List (String × β)} (h : (fields.map Prod.fst).Nodup)
    {name : String} {v : β} (hmem : (name, v) ∈ fields) (read? : β → Option α) (other : α) :
    orElse? ⟨true, fun n => fields.lookup n⟩ read? name other = read? v := by
  have hfind := (lookup_eq_some_iff_mem h).2 hmem
  simp [orElse?, hfind]

/-- A field that is not there has its own value. -/
theorem orElse?_of_notMem {fields : List (String × β)} {name : String}
    (absent : name ∉ fields.map Prod.fst) (read? : β → Option α) (other : α) :
    orElse? ⟨true, fun n => fields.lookup n⟩ read? name other = some other := by
  have hfind : fields.lookup name = none := by
    rw [lookup_eq_head?, List.filter_eq_nil_iff.2]
    · rfl
    · intro f mem named
      exact absent (eq_of_beq named ▸ List.mem_map_of_mem mem)
  simp [orElse?, hfind]

end Record

/-! ## Maps -/

/-- A new key is set behind the others. -/
theorem putEntry_of_new {k : String} (v : String) {es : List (String × String)}
    (h : k ∉ es.map Prod.fst) : putEntry k v es = es ++ [(k, v)] := by
  induction es with
  | nil => rfl
  | cons e es ih =>
    have hne : e.1 ≠ k := by
      intro heq
      exact h (by simp [heq])
    have hrest : k ∉ es.map Prod.fst := fun hk => h (by simp [hk])
    rw [putEntry, if_neg hne, ih hrest]
    rfl

theorem mem_putEntry {k v : String} {e : String × String} {es : List (String × String)}
    (h : e ∈ putEntry k v es) : e = (k, v) ∨ e ∈ es := by
  induction es with
  | nil => exact .inl (List.mem_singleton.1 h)
  | cons e' es ih =>
    rw [putEntry] at h
    split at h
    · rcases List.mem_cons.1 h with h | h
      · exact .inl h
      · exact .inr (List.mem_cons_of_mem _ h)
    · rcases List.mem_cons.1 h with h | h
      · exact .inr (h ▸ List.mem_cons_self)
      · exact (ih h).imp id (List.mem_cons_of_mem _)

namespace TextMap

theorem ext_entries {m m' : TextMap} (h : m.entries = m'.entries) : m = m' := by
  cases m
  cases m'
  cases h
  rfl

/-- Entries under new keys are set behind those that are there. -/
theorem entries_insertAll (es : List (String × String)) (m : TextMap)
    (h : ((m.entries ++ es).map Prod.fst).Nodup) : (m.insertAll es).entries = m.entries ++ es := by
  induction es generalizing m with
  | nil => simp [insertAll]
  | cons e es ih =>
    have hnew : e.1 ∉ m.entries.map Prod.fst := by
      intro hmem
      rw [List.map_append, List.nodup_append] at h
      exact h.2.2 e.1 hmem e.1 (by simp) rfl
    have hput : (m.insert e.1 e.2).entries = m.entries ++ [e] := putEntry_of_new e.2 hnew
    have hrest := ih (m.insert e.1 e.2) (by simpa [hput] using h)
    have hstep : m.insertAll (e :: es) = (m.insert e.1 e.2).insertAll es := rfl
    rw [hstep, hrest, hput]
    simp

/-- A map is made again by setting its entries in their order. -/
@[simp] theorem ofList_entries (m : TextMap) : ofList m.entries = m := by
  apply ext_entries
  have hall := entries_insertAll m.entries empty (by simpa [empty] using m.nodup)
  simpa [ofList, empty] using hall

/-- A map has no entries but those that were set. -/
theorem mem_entries_insertAll {e : String × String} {es : List (String × String)} {m : TextMap}
    (h : e ∈ (m.insertAll es).entries) : e ∈ m.entries ∨ e ∈ es := by
  induction es generalizing m with
  | nil => exact .inl h
  | cons e' es ih =>
    rcases ih (m := m.insert e'.1 e'.2) h with h | h
    · rcases mem_putEntry h with rfl | h
      · exact .inr List.mem_cons_self
      · exact .inl h
    · exact .inr (List.mem_cons_of_mem _ h)

theorem entries_ofList_subset (es : List (String × String)) :
    (ofList es).entries ⊆ es := by
  intro e he
  rcases mem_entries_insertAll he with he | he
  · cases he
  · exact he

theorem length_entries_ofList_le (es : List (String × String)) :
    (ofList es).entries.length ≤ es.length :=
  (List.subperm_of_subset (ofList es).nodup.of_map (entries_ofList_subset es)).length_le

theorem get?_eq_some {m : TextMap} {k v : String} : m.get? k = some v ↔ (k, v) ∈ m.entries :=
  lookup_eq_some_iff_mem m.nodup

/-- The order of the entries does not matter to any key. -/
theorem get?_of_perm {m m' : TextMap} (h : m.entries.Perm m'.entries) (k : String) :
    m.get? k = m'.get? k := by
  apply Option.ext
  intro v
  rw [get?_eq_some, get?_eq_some]
  exact h.mem_iff

end TextMap

end AgentState
