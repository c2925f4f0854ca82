/-
AgentState.Proofs.Toml.Tables — what the tables of a document come to.

A draft is seen as what stands at each path: a value, a table with the way that
it was begun, a list of tables, or nothing.  A change at the end of a path makes
the tables on the way that are not there yet and leaves everything else as it
is, so the statements of a document can come in any order that gives no key
twice.

* `Item.view`, `Entries.view` — what stands at a path.
* `Entries.view_within` — what a change at the end of a path comes to.
* `Sheet` — keys with their values and tables with theirs, in an order of
  their own; `Sheet.Sound` — no key is given twice.
* `Sheet.drafted` — the draft of a sheet has at each path what the sheet says.
* `Value.at?` — what a finished document has at a path.
-/
import AgentState.Proofs.Toml.Lines
import AgentState.Proofs.Entries

namespace AgentState.Toml

/-- A new key is found behind the others. -/
theorem lookup_append_new {α β : Type} [BEq α] [LawfulBEq α] [DecidableEq α] {k : α}
    {es : List (α × β)} (new : es.lookup k = none) (b : β) (l : α) :
    (es ++ [(k, b)]).lookup l = if l = k then some b else es.lookup l := by
  rw [List.lookup_append]
  by_cases same : l = k
  · rw [if_pos same, same, new]
    simp
  · rw [if_neg same, List.lookup_cons, beq_false_of_ne same]
    simp

/-! ## What stands at a path -/

/-- What stands at a path. -/
inductive Place where
  | value (v : Value)
  | table (origin : Origin)
  | list

namespace Item

def place : Item → Place
  | .value v => .value v
  | .table origin _ => .table origin
  | .tables _ _ => .list

/-- What stands at a path that begins in an item.  Only tables lead on. -/
def view : Item → List String → Option Place
  | item, [] => some item.place
  | .table _ es, k :: path => (es.lookup k).bind fun item => item.view path
  | _, _ :: _ => none

theorem view_nil (item : Item) : item.view [] = some item.place := by
  cases item <;> rfl

end Item

namespace Entries

/-- What stands at a path in a document; the document itself is a table. -/
def view (es : Entries) (path : List String) : Option Place := (Item.table .header es).view path

theorem view_nil (es : Entries) : es.view [] = some (.table .header) := rfl

theorem view_cons (es : Entries) (k : String) (path : List String) :
    es.view (k :: path) = (es.lookup k).bind fun item => item.view path := rfl

/-- Nothing stands in an empty table. -/
theorem view_empty {path : List String} (deep : path ≠ []) : view [] path = none := by
  cases path with
  | nil => exact absurd rfl deep
  | cons => rfl

theorem view_table {path : List String} (deep : path ≠ []) (origin : Origin) (es : Entries) :
    (Item.table origin es).view path = es.view path := by
  cases path with
  | nil => exact absurd rfl deep
  | cons => rfl

theorem lookup_replace {k : String} {es : Entries} {old : Item} (here : es.lookup k = some old)
    (item : Item) (l : String) :
    (es.replace k item).lookup l = if l = k then some item else es.lookup l := by
  -- for the induction: whether the key is there is not known of the rest
  have general : (es.replace k item).lookup l =
      if l = k then (es.lookup k).map (fun _ => item) else es.lookup l := by
    clear here
    induction es with
    | nil => by_cases same : l = k <;> simp [replace, same]
    | cons e es ih =>
      obtain ⟨m, other⟩ := e
      rw [replace, List.map_cons, ← replace]
      by_cases first : m = k <;> by_cases same : l = k
      · simp [first, same]
      · have apart : (l == k) = false := beq_false_of_ne same
        simpa [first, same, List.lookup_cons, apart] using ih
      · have apart : (k == m) = false := beq_false_of_ne (Ne.symm first)
        simpa [first, same, List.lookup_cons, apart] using ih
      · by_cases next : l = m
        · simp [first, next]
        · have apart : (l == m) = false := beq_false_of_ne next
          simpa [first, same, List.lookup_cons, apart] using ih
  rw [general, here]
  rfl

/-! ## Changes at the end of a path -/

/-- One name in a table gets something new, and everything else stays. -/
def Sets (name : String) (new : Place) (before after : Entries) : Prop :=
  ∀ path, after.view path = if path = [name] then some new else before.view path

/-- A name under which nothing else lies gets something new. -/
theorem sets_of_lookup {name : String} {item : Item} {before after : Entries}
    (after_lookup : ∀ l, after.lookup l = if l = name then some item else before.lookup l)
    (below : ∀ path, path ≠ [] → item.view path = before.view (name :: path)) :
    Sets name item.place before after := by
  intro path
  cases path with
  | nil => rfl
  | cons l path =>
    rw [view_cons, after_lookup]
    by_cases same : l = name
    · subst same
      rw [if_pos rfl, Option.bind_some]
      cases path with
      | nil => rw [if_pos rfl, Item.view_nil]
      | cons k path => rw [below _ (List.cons_ne_nil _ _), if_neg (by simp)]
    · rw [if_neg same, if_neg (by simp [same]), view_cons]

/-- What a change at the end of a path comes to: the tables on the way that are
not there yet, and what it sets. -/
def viewWith (path : List String) (name : String) (new : Place) (before : Entries)
    (q : List String) : Option Place :=
  if q = path ++ [name] then some new
  else if q <+: path ∧ before.view q = none then some (.table .passage)
  else before.view q

/-- A change goes on to tables, and comes out of each of them again. -/
theorem view_of_entered {k : String} {path : List String} {name : String} {new : Place}
    {origin : Origin} {before after inner inner' : Entries}
    (after_lookup : ∀ l, after.lookup l =
      if l = k then some (.table origin inner') else before.lookup l)
    (here : (before.view [k]).getD (.table .passage) = .table origin)
    (below : ∀ q, q ≠ [] → before.view (k :: q) = inner.view q)
    (entered : ∀ q, inner'.view q = viewWith path name new inner q) (q : List String) :
    after.view q = viewWith (k :: path) name new before q := by
  cases q with
  | nil =>
    rw [viewWith, if_neg (by simp), if_neg (by simp [view_nil])]
    rfl
  | cons l q =>
    rw [view_cons, after_lookup]
    by_cases same : l = k
    · subst same
      rw [if_pos rfl, Option.bind_some]
      cases q with
      | nil =>
        rw [viewWith, if_neg (by simp)]
        cases found : before.view [l] with
        | none =>
          rw [found] at here
          rw [if_pos ⟨by simp, rfl⟩]
          exact congrArg some here.symm
        | some p =>
          rw [found] at here
          rw [if_neg (by simp)]
          exact congrArg some here.symm
      | cons m q =>
        rw [view_table (List.cons_ne_nil _ _), entered, viewWith, viewWith,
          below _ (List.cons_ne_nil _ _)]
        simp
    · rw [if_neg same, viewWith, if_neg (by simp [same]), if_neg (by simp [same]), view_cons]

/-- Where only tables stand on a path, a change at its end that succeeds does so
from the front of the path, too. -/
theorem view_within (change : Origin → Entries → Option Entries) (path : List String)
    (name : String) (new : Place) (origin : Origin) (es : Entries)
    (walk : ∀ q, q <+: path → ∀ p ∈ es.view q, ∃ o, p = .table o)
    (step : ∀ origin inner, (∀ q, q ≠ [] → inner.view q = es.view (path ++ q)) →
      ∃ inner', change origin inner = some inner' ∧ Sets name new inner inner') :
    ∃ es', within false change path origin es = some es' ∧
      ∀ q, es'.view q = viewWith path name new es q := by
  induction path generalizing origin es with
  | nil =>
    obtain ⟨es', changed, sets⟩ := step origin es fun _ _ => rfl
    refine ⟨es', changed, fun q => ?_⟩
    have notOnTheWay : ¬ (q <+: [] ∧ es.view q = none) := by
      rintro ⟨front, none⟩
      rw [List.prefix_nil.1 front, view_nil] at none
      cases none
    rw [sets, viewWith, if_neg notOnTheWay]
    rfl
  | cons k path ih =>
    cases found : es.lookup k with
    | none =>
      -- a new table is made on the way, and nothing was below it
      have nothing (q : List String) : es.view (k :: q) = none := by rw [view_cons, found]; rfl
      have walk' : ∀ q, q <+: path → ∀ p ∈ view [] q, ∃ o, p = .table o := by
        intro q _ p here
        cases q with
        | nil => exact ⟨_, (Option.some.inj here).symm⟩
        | cons l q => cases here
      obtain ⟨inner, changed, entered⟩ := ih .passage [] walk'
        fun origin inner same => step origin inner fun q deep => by
          rw [same q deep, List.cons_append, nothing, view_empty (by simp [deep])]
      refine ⟨es ++ [(k, .table .passage inner)], ?_, ?_⟩
      · rw [within, found]
        simp [changed]
      · refine view_of_entered (lookup_append_new found _) ?_ (fun q deep => ?_) entered
        · rw [nothing]
          rfl
        · rw [nothing, view_empty deep]
    | some item =>
      obtain ⟨o, isTable⟩ := walk [k] (by simp) item.place
        (by rw [view_cons, found]; cases item <;> rfl)
      cases item with
      | value | tables => cases isTable
      | table origin inner =>
        have inside (q : List String) (deep : q ≠ []) : es.view (k :: q) = view inner q := by
          rw [view_cons, found, Option.bind_some, view_table deep]
        have walk' : ∀ q, q <+: path → ∀ p ∈ view inner q, ∃ o, p = .table o := by
          intro q front p here
          cases q with
          | nil => exact ⟨_, (Option.some.inj here).symm⟩
          | cons l q =>
            refine walk (k :: l :: q) (by simpa using front) p ?_
            rwa [inside _ (List.cons_ne_nil _ _)]
        obtain ⟨inner', changed, entered⟩ := ih origin inner walk'
          fun origin inner'' same => step origin inner'' fun q deep => by
            rw [same q deep, List.cons_append, inside _ (by simp [deep])]
        refine ⟨es.replace k (.table origin inner'), ?_, ?_⟩
        · rw [within, found]
          simp [changed]
        · refine view_of_entered (lookup_replace found _) ?_ inside entered
          rw [view_cons, found]
          rfl

end Entries

/-! ## Sheets -/

/-- What a document says: values under their whole paths, and headers of
tables. -/
structure Contents where
  values : List (List String × Value)
  headers : List (List String)

namespace Contents

/-- What stands at a path.  The document itself is a table, and what leads to a
header is one, too. -/
def place? (c : Contents) (path : List String) : Option Place :=
  if path = [] ∨ path ∈ c.headers then some (.table .header)
  else match c.values.lookup path with
    | some v => some (.value v)
    | none => if ∃ t ∈ c.headers, path <+: t then some (.table .passage) else none

/-- No key is given twice, no table is begun twice, and no value stands in the
way of a table. -/
structure Sound (c : Contents) : Prop where
  once : (c.values.map Prod.fst).Nodup
  headersOnce : c.headers.Nodup
  apart : ∀ e ∈ c.values, ∀ t ∈ c.headers, ¬ e.1 <+: t

theorem Sound.sublist {c c' : Contents} (h : c.Sound) (values : c'.values.Sublist c.values)
    (headers : c'.headers.Sublist c.headers) : c'.Sound where
  once := h.once.sublist (values.map _)
  headersOnce := h.headersOnce.sublist headers
  apart e here t there := h.apart e (values.subset here) t (headers.subset there)

/-- Where no value leads to a path, there are only tables on the way. -/
theorem place?_walk {c : Contents} {path q : List String}
    (noValue : ∀ e ∈ c.values, e.1 ≠ [] → ¬ e.1 <+: path) (front : q <+: path) {p : Place}
    (here : p ∈ c.place? q) : ∃ o, p = .table o := by
  unfold place? at here
  split at here
  · exact ⟨_, (Option.some.inj here).symm⟩
  · next notTable =>
    split at here
    · next v found =>
      obtain ⟨before, behind, split, -⟩ := List.lookup_eq_some_iff.1 found
      have mem : (q, v) ∈ c.values := by simp [split]
      exact absurd front (noValue _ mem fun empty => notTable (.inl empty))
    · split at here
      · exact ⟨_, (Option.some.inj here).symm⟩
      · cases here

/-- No value that is not under a path is found there. -/
theorem lookup_none {c : Contents} {path : List String} (other : ∀ e ∈ c.values, e.1 ≠ path) :
    c.values.lookup path = none :=
  List.lookup_eq_none_iff.2 fun e mem => bne_iff_ne.2 (Ne.symm (other e mem))

/-- A new header stands at its path, and there are tables on the way to it. -/
theorem place?_header (c : Contents) (path : List String) (name : String) (q : List String) :
    place? ⟨c.values, c.headers ++ [path ++ [name]]⟩ q =
      if q = path ++ [name] then some (.table .header)
      else if q <+: path ∧ c.place? q = none then some (.table .passage)
      else c.place? q := by
  by_cases same : q = path ++ [name]
  · simp [place?, same]
  · have header : (q = [] ∨ q ∈ c.headers ++ [path ++ [name]]) ↔ (q = [] ∨ q ∈ c.headers) := by
      simp [same]
    have passage : (∃ t ∈ c.headers ++ [path ++ [name]], q <+: t) ↔
        (∃ t ∈ c.headers, q <+: t) ∨ q <+: path := by
      have last : q <+: path ++ [name] ↔ q <+: path := by
        rw [List.prefix_concat_iff]
        exact or_iff_right same
      simp [or_and_right, exists_or, last]
    simp only [place?, header, passage, if_neg same]
    by_cases here : q = [] ∨ q ∈ c.headers
    · simp [here]
    · simp only [if_neg here]
      cases c.values.lookup q with
      | some v => simp
      | none => by_cases lead : ∃ t ∈ c.headers, q <+: t <;> simp [lead]

/-- A new value stands at its path. -/
theorem place?_value {c : Contents} {path : List String} (free : c.place? path = none) (v : Value)
    (q : List String) :
    place? ⟨c.values ++ [(path, v)], c.headers⟩ q =
      if q = path then some (.value v) else c.place? q := by
  unfold place? at free
  split at free
  · cases free
  · next notHeader =>
    split at free
    · cases free
    · next new =>
      by_cases same : q = path
      · simp [place?, same, notHeader, lookup_append_new new]
      · simp [place?, same, lookup_append_new new]

/-- Something stands at whatever leads to a header. -/
theorem place?_leads {c : Contents} {path q : List String} (header : path = [] ∨ path ∈ c.headers)
    (front : q <+: path) : c.place? q ≠ none := by
  intro none
  unfold place? at none
  split at none
  · cases none
  · next notHeader =>
    split at none
    · cases none
    · rcases header with rfl | header
      · exact notHeader (.inl (List.prefix_nil.1 front))
      · rw [if_pos ⟨_, header, front⟩] at none
        cases none

end Contents

/-- A draft has at each path what is said, and the open table is one of those
that are begun. -/
structure Drafted (d : Draft) (c : Contents) : Prop where
  view : ∀ q, d.root.view q = c.place? q
  path : d.path = [] ∨ d.path ∈ c.headers

/-- A header opens a table under a new name, or one that so far was only a step
on the way to another. -/
theorem Draft.openTable?_eq (path : List String) (name : String) :
    ∃ change : Origin → Entries → Option Entries,
      (∀ o es, es.lookup name = none → change o es = some (es ++ [(name, .table .header [])])) ∧
      (∀ o es inner, es.lookup name = some (.table .passage inner) →
        change o es = some (es.replace name (.table .header inner))) ∧
      ∀ d : Draft, d.openTable? path name =
        (Entries.within false change path .header d.root).bind fun root =>
          some ⟨root, path ++ [name]⟩ := by
  refine ⟨_, fun o es new => ?_, fun o es inner found => ?_, fun d => rfl⟩
  · rw [new]
  · rw [found]

/-- A table begins. -/
theorem Drafted.openTable {d : Draft} {c : Contents} (h : Drafted d c) {path : List String}
    {name : String} (sound : Contents.Sound ⟨c.values, c.headers ++ [path ++ [name]]⟩) :
    ∃ d', d.after? (.table path name) = some d' ∧ d'.path = path ++ [name] ∧
      Drafted d' ⟨c.values, c.headers ++ [path ++ [name]]⟩ := by
  have noValue : ∀ e ∈ c.values, ¬ e.1 <+: path ++ [name] :=
    fun e mem => sound.apart e mem _ (by simp)
  have noLookup : c.values.lookup (path ++ [name]) = none :=
    Contents.lookup_none fun e mem same => noValue e mem (same ▸ List.prefix_rfl)
  have notHeader : path ++ [name] ∉ c.headers := by
    have once := sound.headersOnce
    rw [List.nodup_append] at once
    exact fun mem => once.2.2 _ mem _ (by simp) rfl
  have walk : ∀ q, q <+: path → ∀ p ∈ d.root.view q, ∃ o, p = .table o := by
    intro q front p here
    rw [h.view] at here
    exact Contents.place?_walk
      (fun e mem _ lead => noValue e mem (lead.trans (List.prefix_append _ _))) front here
  obtain ⟨change, onNew, onPassage, opens⟩ := Draft.openTable?_eq path name
  -- nothing but a step on the way to another table can be there already
  have step : ∀ (origin : Origin) (inner : Entries),
      (∀ q, q ≠ [] → inner.view q = d.root.view (path ++ q)) →
      ∃ inner', change origin inner = some inner' ∧
        Entries.Sets name (.table .header) inner inner' := by
    intro origin inner same
    have here : inner.view [name] = none ∨ inner.view [name] = some (.table .passage) := by
      rw [same [name] (by simp), h.view, Contents.place?, if_neg (by simpa using notHeader),
        noLookup]
      exact (ite_eq_or_eq _ _ _).symm
    cases found : inner.lookup name with
    | none =>
      refine ⟨_, onNew origin inner found,
        Entries.sets_of_lookup (lookup_append_new found _) fun q deep => ?_⟩
      rw [Entries.view_cons, found, Entries.view_table deep, Entries.view_empty deep]
      rfl
    | some item =>
      rw [Entries.view_cons, found, Option.bind_some, Item.view_nil] at here
      have isPassage : item.place = .table .passage := by simpa using here
      cases item with
      | value | tables => cases isPassage
      | table o deeper =>
        obtain rfl : o = .passage := Place.table.inj isPassage
        refine ⟨_, onPassage origin inner deeper found,
          Entries.sets_of_lookup (Entries.lookup_replace found _) fun q deep => ?_⟩
        rw [Entries.view_cons, found, Option.bind_some, Entries.view_table deep,
          Entries.view_table deep]
  obtain ⟨root, changed, view⟩ :=
    Entries.view_within change path name (.table .header) .header d.root walk step
  refine ⟨⟨root, path ++ [name]⟩, ?_, rfl, ⟨fun q => ?_, .inr (by simp)⟩⟩
  · exact (opens d).trans (bind_of_some changed rfl)
  · rw [view, Entries.viewWith, Contents.place?_header, h.view]

/-- A value is put under a name in the open table. -/
theorem Drafted.put {d : Draft} {c : Contents} (h : Drafted d c) {name : String} {v : Value}
    (sound : Contents.Sound ⟨c.values ++ [(d.path ++ [name], v)], c.headers⟩) :
    ∃ d', d.after? (.pair [] name v) = some d' ∧ d'.path = d.path ∧
      Drafted d' ⟨c.values ++ [(d.path ++ [name], v)], c.headers⟩ := by
  have free : c.place? (d.path ++ [name]) = none := by
    have new : c.values.lookup (d.path ++ [name]) = none := by
      have once := sound.once
      rw [List.map_append, List.nodup_append] at once
      exact Contents.lookup_none fun e mem same =>
        once.2.2 _ (List.mem_map_of_mem mem) _ (by simp) same
    have apart : ∀ t ∈ c.headers, ¬ d.path ++ [name] <+: t :=
      fun t mem => sound.apart (d.path ++ [name], v) (by simp) t mem
    have notHeader : d.path ++ [name] ∉ c.headers := fun mem => apart _ mem List.prefix_rfl
    rw [Contents.place?, if_neg (by simpa using notHeader), new]
    exact if_neg fun ⟨t, mem, lead⟩ => apart t mem lead
  have walk : ∀ q, q <+: d.path → ∀ p ∈ d.root.view q, ∃ o, p = .table o := by
    intro q front p here
    rw [h.view] at here
    refine Contents.place?_walk (fun e mem deep lead => ?_) front here
    rcases h.path with top | header
    · rw [top] at lead
      exact deep (List.prefix_nil.1 lead)
    · exact sound.apart e (List.mem_append_left _ mem) _ header lead
  have step : ∀ (origin : Origin) (inner : Entries),
      (∀ q, q ≠ [] → inner.view q = d.root.view (d.path ++ q)) → ∃ inner',
        inner.put? [] name v = some inner' ∧ Entries.Sets name (.value v) inner inner' := by
    intro _ inner same
    have here := same [name] (by simp)
    rw [h.view, free, Entries.view_cons] at here
    have found : inner.lookup name = none := by
      cases found : inner.lookup name with
      | none => rfl
      | some item =>
        rw [found, Option.bind_some, Item.view_nil] at here
        cases here
    have sets : Entries.Sets name (Item.value v).place inner (inner ++ [(name, .value v)]) := by
      refine Entries.sets_of_lookup (lookup_append_new found _) fun q deep => ?_
      rw [Entries.view_cons, found]
      cases q with
      | nil => exact absurd rfl deep
      | cons => rfl
    exact ⟨_, by simp [Entries.put?, Entries.within, Entries.add?, found], sets⟩
  obtain ⟨root, changed, view⟩ :=
    Entries.view_within _ d.path name (.value v) .header d.root walk step
  refine ⟨⟨root, d.path⟩, ?_, rfl, ⟨fun q => ?_, h.path⟩⟩
  · exact bind_of_some changed rfl
  · -- the open table and those on the way to it are there
    have onTheWay : ¬ (q <+: d.path ∧ d.root.view q = none) := fun ⟨front, absent⟩ =>
      Contents.place?_leads h.path front (h.view q ▸ absent)
    rw [view, Entries.viewWith, Contents.place?_value free, if_neg onTheWay, h.view]

/-- A table: its header, and keys with their values. -/
structure Section where
  path : List String
  name : String
  pairs : List (String × Value)

/-- A document: keys with their values in front of all headers, and tables.
They stand in an order of their own. -/
structure Sheet where
  top : List (String × Value)
  sections : List Section

/-- Values under the names that they have in a table. -/
def Contents.under (path : List String) (pairs : List (String × Value)) :
    List (List String × Value) :=
  pairs.map fun e => (path ++ [e.1], e.2)

namespace Section

def key (t : Section) : List String := t.path ++ [t.name]

def statements (t : Section) : List Statement :=
  .table t.path t.name :: t.pairs.map fun e => .pair [] e.1 e.2

end Section

namespace Sheet

/-- What the lines of a sheet say, from the first to the last. -/
def statements (s : Sheet) : List Statement :=
  s.top.map (fun e => .pair [] e.1 e.2) ++ s.sections.flatMap Section.statements

/-- What a sheet says in all. -/
def contents (s : Sheet) : Contents :=
  ⟨Contents.under [] s.top ++ s.sections.flatMap fun t => Contents.under t.key t.pairs,
   s.sections.map Section.key⟩

end Sheet

/-- Values are put into the open table one after the other. -/
theorem Drafted.puts {d : Draft} {c : Contents} (h : Drafted d c) (pairs : List (String × Value))
    (sound : Contents.Sound ⟨c.values ++ Contents.under d.path pairs, c.headers⟩) :
    ∃ d', (pairs.map fun e => Statement.pair [] e.1 e.2).foldlM Draft.after? d = some d' ∧
      Drafted d' ⟨c.values ++ Contents.under d.path pairs, c.headers⟩ := by
  induction pairs generalizing d c with
  | nil => exact ⟨d, rfl, by simpa [Contents.under] using h⟩
  | cons e pairs ih =>
    have all : c.values ++ Contents.under d.path (e :: pairs) =
        (c.values ++ [(d.path ++ [e.1], e.2)]) ++ Contents.under d.path pairs := by
      simp [Contents.under]
    rw [all] at sound ⊢
    obtain ⟨d₁, first, path, put⟩ :=
      h.put (sound.sublist (List.sublist_append_left _ _) (List.Sublist.refl _))
    obtain ⟨d₂, others, drafted⟩ := ih put (by rw [path]; exact sound)
    rw [path] at drafted
    exact ⟨d₂, bind_of_some first others, drafted⟩

/-- Tables begin one after the other, each with its values. -/
theorem Drafted.sections {d : Draft} {c : Contents} (h : Drafted d c) (ts : List Section)
    (sound : Contents.Sound ⟨c.values ++ ts.flatMap fun t => Contents.under t.key t.pairs,
      c.headers ++ ts.map Section.key⟩) :
    ∃ d', (ts.flatMap Section.statements).foldlM Draft.after? d = some d' ∧
      Drafted d' ⟨c.values ++ ts.flatMap fun t => Contents.under t.key t.pairs,
        c.headers ++ ts.map Section.key⟩ := by
  induction ts generalizing d c with
  | nil => exact ⟨d, rfl, by simpa using h⟩
  | cons t ts ih =>
    have values : (c.values ++ (t :: ts).flatMap fun t => Contents.under t.key t.pairs) =
        (c.values ++ Contents.under t.key t.pairs) ++
          ts.flatMap fun t => Contents.under t.key t.pairs := by simp
    have headers : c.headers ++ (t :: ts).map Section.key =
        (c.headers ++ [t.key]) ++ ts.map Section.key := by simp
    rw [values, headers] at sound ⊢
    have front : Contents.Sound ⟨c.values ++ Contents.under t.key t.pairs, c.headers ++ [t.key]⟩ :=
      sound.sublist (List.sublist_append_left _ _) (List.sublist_append_left _ _)
    obtain ⟨d₁, first, path, begun⟩ :=
      h.openTable (front.sublist (List.sublist_append_left _ _) (List.Sublist.refl _))
    have same : d₁.path = t.key := path
    obtain ⟨d₂, filled, put⟩ := begun.puts t.pairs (by rw [same]; exact front)
    rw [same] at put
    obtain ⟨d₃, others, drafted⟩ := ih put sound
    refine ⟨d₃, ?_, drafted⟩
    rw [List.flatMap_cons, List.foldlM_append]
    exact bind_of_some (bind_of_some first filled) others

/-- The draft of a sheet has at each path what the sheet says. -/
theorem Sheet.drafted (s : Sheet) (sound : s.contents.Sound) :
    ∃ d, s.statements.foldlM Draft.after? .empty = some d ∧
      ∀ path, d.root.view path = s.contents.place? path := by
  have start : Drafted .empty ⟨[], []⟩ := by
    refine ⟨fun q => ?_, .inl rfl⟩
    cases q <;> rfl
  obtain ⟨d₁, top, filled⟩ := start.puts s.top
    (sound.sublist (List.sublist_append_left _ _) (List.nil_sublist _))
  obtain ⟨d₂, sections, drafted⟩ := filled.sections s.sections sound
  refine ⟨d₂, ?_, drafted.view⟩
  rw [statements, List.foldlM_append]
  exact bind_of_some top sections

/-! ## What a finished document has -/

/-- What a document has at a path. -/
def Value.at? : Value → List String → Option Value
  | v, [] => some v
  | .table fields, k :: path => (fields.lookup k).bind fun v => v.at? path
  | _, _ :: _ => none

namespace Entries

theorem lookup_values (es : Entries) (k : String) :
    (values es).lookup k = (es.lookup k).map itemValue := by
  induction es with
  | nil => rfl
  | cons e es ih =>
    obtain ⟨l, item⟩ := e
    rw [values, List.lookup_cons, List.lookup_cons, ih]
    cases k == l <;> rfl

/-- A value of a draft is one of the document. -/
theorem at?_of_value {item : Item} {path : List String} {v : Value}
    (here : item.view path = some (.value v)) : (itemValue item).at? path = some v := by
  induction path generalizing item with
  | nil =>
    rw [Item.view_nil] at here
    cases item with
    | value w =>
      obtain rfl : w = v := Place.value.inj (Option.some.inj here)
      rfl
    | table | tables => cases here
  | cons k path ih =>
    cases item with
    | value | tables => cases here
    | table origin es =>
      obtain ⟨item, found, here⟩ := Option.bind_eq_some_iff.1 here
      rw [itemValue, Value.at?, lookup_values, found]
      exact ih here

/-- A table of a draft is one of the document. -/
theorem at?_of_table {item : Item} {path : List String} {origin : Origin}
    (here : item.view path = some (.table origin)) :
    ∃ es : Entries, (itemValue item).at? path = some es.value := by
  induction path generalizing item with
  | nil =>
    rw [Item.view_nil] at here
    cases item with
    | table _ es => exact ⟨es, rfl⟩
    | value | tables => cases here
  | cons k path ih =>
    cases item with
    | value | tables => cases here
    | table origin es =>
      obtain ⟨item, found, here⟩ := Option.bind_eq_some_iff.1 here
      rw [itemValue, Value.at?, lookup_values, found]
      exact ih here

/-- Where a path leads through tables to nothing, the document has nothing. -/
theorem at?_of_none {item : Item} {path : List String} (absent : item.view path = none)
    (walk : ∀ q, q <+: path → ∀ p ∈ item.view q, ∃ o, p = .table o) :
    (itemValue item).at? path = none := by
  induction path generalizing item with
  | nil =>
    rw [Item.view_nil] at absent
    cases absent
  | cons k path ih =>
    obtain ⟨o, isTable⟩ := walk [] List.nil_prefix item.place (Item.view_nil item)
    cases item with
    | value | tables => cases isTable
    | table origin es =>
      rw [itemValue, Value.at?, lookup_values]
      cases found : es.lookup k with
      | none => rfl
      | some item =>
        have below (q : List String) : (Item.table origin es).view (k :: q) = item.view q := by
          rw [Item.view, found]
          rfl
        refine ih (below path ▸ absent) fun q front p here => ?_
        exact walk (k :: q) (by simpa using front) p (by rw [below]; exact here)

end Entries

end AgentState.Toml
