/-
AgentState.TextMap — texts under text keys.

* `TextMap` — entries in the order their keys were first set, each key
  once.
* `TextMap.insert` — sets a key; a key already there keeps its place.
* `TextMap.insertAll` — sets entries one after the other, so of two
  entries with one key the last one stays.
-/

namespace AgentState

/-- Sets a key in a list of entries. -/
def putEntry (k v : String) : List (String × String) → List (String × String)
  | [] => [(k, v)]
  | e :: rest => if e.1 = k then (k, v) :: rest else e :: putEntry k v rest

theorem keys_putEntry (k v : String) : ∀ es : List (String × String),
    (putEntry k v es).map Prod.fst =
      if k ∈ es.map Prod.fst then es.map Prod.fst else es.map Prod.fst ++ [k]
  | [] => by simp [putEntry]
  | e :: rest => by
      by_cases h : e.1 = k
      · simp [putEntry, h]
      · have h' : k ≠ e.1 := fun he => h he.symm
        simp only [putEntry, h, if_false, List.map_cons, List.mem_cons, h', false_or,
          keys_putEntry k v rest]
        split <;> simp

theorem nodup_putEntry (k v : String) (es : List (String × String))
    (h : (es.map Prod.fst).Nodup) : ((putEntry k v es).map Prod.fst).Nodup := by
  rw [keys_putEntry]
  split
  · exact h
  · next hk =>
    rw [List.nodup_append]
    refine ⟨h, by simp, fun a ha b hb => ?_⟩
    simp only [List.mem_singleton] at hb
    subst hb
    exact fun hab => hk (hab ▸ ha)

/-- Texts under text keys, each key once. -/
structure TextMap where
  entries : List (String × String)
  nodup : (entries.map Prod.fst).Nodup
  deriving DecidableEq

namespace TextMap

def empty : TextMap := ⟨[], by simp⟩

instance : Inhabited TextMap := ⟨empty⟩

/-- Sets a key. -/
def insert (m : TextMap) (k v : String) : TextMap :=
  ⟨putEntry k v m.entries, nodup_putEntry k v m.entries m.nodup⟩

/-- Sets entries in order. -/
def insertAll (m : TextMap) (es : List (String × String)) : TextMap :=
  es.foldl (fun acc e => acc.insert e.1 e.2) m

/-- The map of a list of entries, the last of a key counting. -/
def ofList (es : List (String × String)) : TextMap := empty.insertAll es

/-- The text under a key. -/
def get? (m : TextMap) (k : String) : Option String := m.entries.lookup k

end TextMap

end AgentState
