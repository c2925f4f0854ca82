/-
AgentState.Toml.Draft — tables while a document is read.

A table can be begun in three ways, and each decides what may still be
added to it (`Origin`).  A header opens a table that is not there yet, or
one that so far was only a step on the way to another.  A key with points
goes through tables that no header has opened.

* `Entries.within` — changes the table at the end of a path and makes the
  tables on the way.
* `Draft.put?`, `Draft.openTable?`, `Draft.openElement?` — a key with its
  value, a header, and a header of a list of tables.
* `Entries.value` — the finished table.
-/
import AgentState.Toml.Value

namespace AgentState.Toml

/-- How a table was begun: by its own header, on the way of a header, or
by a key with points. -/
inductive Origin where
  | header
  | passage
  | dotted
  deriving DecidableEq

/-- What stands under a key: a value, a table, or tables in a list, of
which only the last can grow. -/
inductive Item where
  | value (v : Value)
  | table (origin : Origin) (entries : List (String × Item))
  | tables (finished : List (List (String × Item))) (last : List (String × Item))

/-- A table that may still grow, each key once. -/
abbrev Entries := List (String × Item)

namespace Entries

/-- Puts another item under a key that is there. -/
def replace (k : String) (item : Item) (es : Entries) : Entries :=
  es.map (fun e => if e.1 == k then (k, item) else e)

/-- Adds a key that is not there. -/
def add? (k : String) (item : Item) (es : Entries) : Option Entries :=
  match es.lookup k with
  | none => some (es ++ [(k, item)])
  | some _ => none

/-- Changes the table at the end of a path, seen from a table of a given
origin.  The path of a key with points leads only through tables that no
header has opened, and makes tables of its own kind. -/
def within (dotted : Bool) (change : Origin → Entries → Option Entries) :
    List String → Origin → Entries → Option Entries
  | [], origin, es => change origin es
  | k :: path, _, es =>
      match es.lookup k with
      | none => do
          let origin := if dotted then Origin.dotted else .passage
          let inner ← within dotted change path origin []
          some (es ++ [(k, .table origin inner)])
      | some (.table origin inner) =>
          if dotted ∧ origin = .header then none
          else do
            let inner ← within dotted change path origin inner
            some (replace k (.table origin inner) es)
      | some (.tables finished last) => do
          let last ← within dotted change path .header last
          some (replace k (.tables finished last) es)
      | some (.value _) => none

/-- Puts a value under a key with points.  The table that it comes to has
to be one of that kind. -/
def put? (path : List String) (name : String) (v : Value) (es : Entries) : Option Entries :=
  within true
    (fun origin es =>
      if path ≠ [] ∧ origin ≠ .dotted then none else es.add? name (.value v))
    path .header es

mutual

/-- A finished item. -/
def itemValue : Item → Value
  | .value v => v
  | .table _ es => .table (values es)
  | .tables finished last => .array (tables finished ++ [.table (values last)])

/-- Finished entries. -/
def values : List (String × Item) → List (String × Value)
  | [] => []
  | (k, item) :: rest => (k, itemValue item) :: values rest

/-- Finished tables of a list. -/
def tables : List (List (String × Item)) → List Value
  | [] => []
  | es :: rest => .table (values es) :: tables rest

end

/-- The finished table. -/
def value (es : Entries) : Value := .table (values es)

end Entries

/-- A document that is being read: its tables and the path of the table
that keys go to. -/
structure Draft where
  root : Entries
  path : List String

namespace Draft

def empty : Draft := ⟨[], []⟩

/-- Adds a key with its value to the open table. -/
def put? (d : Draft) (path : List String) (name : String) (v : Value) : Option Draft := do
  let root ← Entries.within false (fun _ es => es.put? path name v) d.path .header d.root
  some { d with root }

/-- Opens the table of a header. -/
def openTable? (d : Draft) (path : List String) (name : String) : Option Draft := do
  let change (_ : Origin) (es : Entries) : Option Entries :=
    match es.lookup name with
    | none => some (es ++ [(name, .table .header [])])
    | some (.table .passage inner) => some (es.replace name (.table .header inner))
    | some _ => none
  let root ← Entries.within false change path .header d.root
  some ⟨root, path ++ [name]⟩

/-- Opens a new table at the end of a list of tables. -/
def openElement? (d : Draft) (path : List String) (name : String) : Option Draft := do
  let change (_ : Origin) (es : Entries) : Option Entries :=
    match es.lookup name with
    | none => some (es ++ [(name, .tables [] [])])
    | some (.tables finished last) => some (es.replace name (.tables (finished ++ [last]) []))
    | some _ => none
  let root ← Entries.within false change path .header d.root
  some ⟨root, path ++ [name]⟩

end Draft

end AgentState.Toml
