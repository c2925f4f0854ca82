/-
AgentState.Record — records as documents hold them.

* `Record` — the fields of a record, found by name.  A document may give
  them under their names, in any order, or as a list in the order of the
  record's declaration.
* `Record.ofNamed?`, `Record.ofListed` — the two forms.  Fields that the
  record does not have are skipped; a field given twice makes no record.
* `Record.required?`, `Record.optional?`, `Record.orElse?` — what becomes
  of a field that is not there.
-/

namespace AgentState

/-- The fields of a record in a document. -/
structure Record (β : Type) where
  named : Bool
  find : String → Option β

namespace Record

variable {α β : Type}

/-- The record of named fields, each of `names` at most once. -/
def ofNamed? (names : List String) (fields : List (String × β)) : Option (Record β) :=
  if names.all (fun n => (fields.filter (fun f => f.1 == n)).length ≤ 1) then
    some ⟨true, fun n => fields.lookup n⟩
  else none

/-- The record of fields listed in the order of `names`. -/
def ofListed (names : List String) (fields : List β) : Record β :=
  ⟨false, fun n => (names.zip fields).lookup n⟩

/-- A field that has to be there. -/
def required? (r : Record β) (read? : β → Option α) (name : String) : Option α :=
  (r.find name).bind read?

/-- A field that may be left out of a record with names. -/
def optional? (r : Record β) (read? : β → Option (Option α)) (name : String) :
    Option (Option α) :=
  match r.find name with
  | some v => read? v
  | none => if r.named then some none else none

/-- A field with a value of its own when it is not there. -/
def orElse? (r : Record β) (read? : β → Option α) (name : String) (other : α) : Option α :=
  match r.find name with
  | some v => read? v
  | none => some other

end Record

end AgentState
