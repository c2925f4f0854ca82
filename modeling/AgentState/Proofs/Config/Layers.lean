/-
AgentState.Proofs.Config.Layers — settings in layers.

A document may give any of the settings, in tables in any order, with keys that
mean nothing in between.  What it gives is replaced in the standard settings,
and everything else stays as it is: a table that gives some of its keys leaves
the others, and a table that is not there leaves all of its own.

* `Setting` — the settings, each with its place in documents and its kind.
* `override` — settings with some of them replaced.
* `Gives` — what a document gives; `read?_of_gives` — it is read as the standard
  settings with that replaced.
* `Toml.Sheet.Gives` — the same of a document in its lines.
* `ofToml_layered` — the statement about whole documents.
-/
import AgentState.Proofs.Config.Validation
import AgentState.Proofs.Toml.Distinct

namespace AgentState

namespace CoreConfig

/-! ## Settings -/

/-- What can be set. -/
inductive Setting where
  | queueCapacity
  | notifyTimeoutMs
  | maxSubscribers
  | maxConflictRatio
  | warnConflictRatio
  | subscriberWarnFraction
  | maxMissedRatio
  | staleAfterMs
  | tickIntervalMs
  | recoveryDelayMs
  | versionPolicy
  deriving DecidableEq

namespace Setting

/-- The table that a setting stands in. -/
def table : Setting → List String
  | .queueCapacity | .notifyTimeoutMs | .maxSubscribers => ["store"]
  | .maxConflictRatio | .warnConflictRatio | .subscriberWarnFraction | .maxMissedRatio
  | .staleAfterMs => ["store", "health"]
  | .tickIntervalMs | .recoveryDelayMs | .versionPolicy => ["cycle"]

/-- Its name there. -/
def name : Setting → String
  | .queueCapacity => "queue_capacity"
  | .notifyTimeoutMs => "notify_timeout_ms"
  | .maxSubscribers => "max_subscribers"
  | .maxConflictRatio => "max_conflict_ratio"
  | .warnConflictRatio => "warn_conflict_ratio"
  | .subscriberWarnFraction => "subscriber_warn_fraction"
  | .maxMissedRatio => "max_missed_ratio"
  | .staleAfterMs => "stale_after_ms"
  | .tickIntervalMs => "tick_interval_ms"
  | .recoveryDelayMs => "recovery_delay_ms"
  | .versionPolicy => "version_policy"

def path (k : Setting) : List String := k.table ++ [k.name]

/-- What a setting can be. -/
abbrev Kind : Setting → Type
  | .queueCapacity | .notifyTimeoutMs | .maxSubscribers | .staleAfterMs | .tickIntervalMs
  | .recoveryDelayMs => UInt64
  | .maxConflictRatio | .warnConflictRatio | .subscriberWarnFraction | .maxMissedRatio => Float
  | .versionPolicy => VersionPolicy

/-- A value of a document as a value of a setting. -/
def read? : (k : Setting) → Toml.Value → Option k.Kind
  | .queueCapacity | .notifyTimeoutMs | .maxSubscribers | .staleAfterMs | .tickIntervalMs
  | .recoveryDelayMs => Toml.Value.word?
  | .maxConflictRatio | .warnConflictRatio | .subscriberWarnFraction | .maxMissedRatio =>
      Toml.Value.real?
  | .versionPolicy => VersionPolicy.read?

/-- What a setting is. -/
def get (c : CoreConfig) : (k : Setting) → k.Kind
  | .queueCapacity => c.store.queueCapacity
  | .notifyTimeoutMs => c.store.notifyTimeoutMs
  | .maxSubscribers => c.store.maxSubscribers
  | .maxConflictRatio => c.store.health.maxConflictRatio
  | .warnConflictRatio => c.store.health.warnConflictRatio
  | .subscriberWarnFraction => c.store.health.subscriberWarnFraction
  | .maxMissedRatio => c.store.health.maxMissedRatio
  | .staleAfterMs => c.store.health.staleAfterMs
  | .tickIntervalMs => c.cycle.tickIntervalMs
  | .recoveryDelayMs => c.cycle.recoveryDelayMs
  | .versionPolicy => c.cycle.versionPolicy

end Setting

/-- What is given of the settings. -/
abbrev Given := (k : Setting) → Option k.Kind

/-- The settings that each setting makes up. -/
def ofSettings (value : (k : Setting) → k.Kind) : CoreConfig where
  store := {
    queueCapacity := value .queueCapacity
    notifyTimeoutMs := value .notifyTimeoutMs
    maxSubscribers := value .maxSubscribers
    health := {
      maxConflictRatio := value .maxConflictRatio
      warnConflictRatio := value .warnConflictRatio
      subscriberWarnFraction := value .subscriberWarnFraction
      maxMissedRatio := value .maxMissedRatio
      staleAfterMs := value .staleAfterMs } }
  cycle := {
    tickIntervalMs := value .tickIntervalMs
    recoveryDelayMs := value .recoveryDelayMs
    versionPolicy := value .versionPolicy }

/-- Settings with what is given replaced. -/
def override (c : CoreConfig) (given : Given) : CoreConfig :=
  ofSettings fun k => (given k).getD (k.get c)

theorem get_override (c : CoreConfig) (given : Given) (k : Setting) :
    k.get (c.override given) = (given k).getD (k.get c) := by
  cases k <;> rfl

/-- Settings are the same when each of them is. -/
theorem ext_settings {c c' : CoreConfig} (same : ∀ k : Setting, k.get c = k.get c') : c = c' := by
  have whole (c : CoreConfig) : ofSettings (fun k => k.get c) = c := rfl
  rw [← whole c, ← whole c']
  exact congrArg ofSettings (funext same)

/-! ## Documents that give settings -/

/-- What a document gives.  Where a setting can stand there are tables or
nothing; what the document has there is read as what is given. -/
structure Gives (root : Toml.Value) (given : Given) : Prop where
  tables : ∀ (k : Setting) (q : List String), q <+: k.table →
    ∀ v ∈ root.at? q, ∃ fields, v = .table fields
  settings : ∀ k : Setting, (root.at? k.path).map k.read? = (given k).map some

variable {given : Given}

/-- A setting that is left out has another value. -/
theorem orElse?_of_given {α : Type} {fields : List (String × Toml.Value)}
    {read? : Toml.Value → Option α} {name : String} {given : Option α}
    (gives : (fields.lookup name).map read? = given.map some) (other : α) :
    Record.orElse? ⟨true, fun n => fields.lookup n⟩ read? name other =
      some (given.getD other) := by
  unfold Record.orElse?
  dsimp only
  generalize fields.lookup name = found at gives ⊢
  cases found <;> cases given <;> simp_all

/-- A table that is not there is one without keys, where this has standard
values. -/
theorem orElse?_of_empty {α : Type} {read? : Toml.Value → Option α} {other : α}
    (empty : read? (.table []) = some other) (fields : List (String × Toml.Value))
    (name : String) :
    Record.orElse? ⟨true, fun n => fields.lookup n⟩ read? name other =
      read? ((fields.lookup name).getD (.table [])) := by
  unfold Record.orElse?
  dsimp only
  cases fields.lookup name with
  | some v => rfl
  | none => exact empty.symm

theorem record?_of_distinct {fields : List (String × Toml.Value)}
    (once : (fields.map Prod.fst).Nodup) (names : List String) :
    Document.record? names (Toml.Value.table fields) =
      some ⟨true, fun n => fields.lookup n⟩ :=
  Record.ofNamed?_of_nodup once names

theorem health_of_given {fields : List (String × Toml.Value)} (once : (fields.map Prod.fst).Nodup)
    (settings : ∀ k : Setting, k.table = ["store", "health"] →
      (fields.lookup k.name).map k.read? = (given k).map some) :
    HealthThresholds.read? (Toml.Value.table fields) =
      some (standard.override given).store.health := by
  have each (k : Setting) (here : k.table = ["store", "health"]) (other : k.Kind) :=
    orElse?_of_given (settings k here) other
  refine bind_of_some (record?_of_distinct once _) ?_
  refine bind_of_some (each .maxConflictRatio rfl _) ?_
  refine bind_of_some (each .warnConflictRatio rfl _) ?_
  refine bind_of_some (each .subscriberWarnFraction rfl _) ?_
  refine bind_of_some (each .maxMissedRatio rfl _) ?_
  exact bind_of_some (each .staleAfterMs rfl _) rfl

theorem store_of_given {fields : List (String × Toml.Value)} (once : (fields.map Prod.fst).Nodup)
    (settings : ∀ k : Setting, k.table = ["store"] →
      (fields.lookup k.name).map k.read? = (given k).map some)
    (health : HealthThresholds.read? ((fields.lookup "health").getD (.table [])) =
      some (standard.override given).store.health) :
    StoreConfig.read? (Toml.Value.table fields) = some (standard.override given).store := by
  have each (k : Setting) (here : k.table = ["store"]) (other : k.Kind) :=
    orElse?_of_given (settings k here) other
  refine bind_of_some (record?_of_distinct once _) ?_
  refine bind_of_some (each .queueCapacity rfl _) ?_
  refine bind_of_some (each .notifyTimeoutMs rfl _) ?_
  refine bind_of_some (each .maxSubscribers rfl _) ?_
  have empty : HealthThresholds.read? (Toml.Value.table []) = some HealthThresholds.standard := rfl
  exact bind_of_some ((orElse?_of_empty empty fields "health").trans health) rfl

theorem cycle_of_given {fields : List (String × Toml.Value)} (once : (fields.map Prod.fst).Nodup)
    (settings : ∀ k : Setting, k.table = ["cycle"] →
      (fields.lookup k.name).map k.read? = (given k).map some) :
    CycleConfig.read? (Toml.Value.table fields) = some (standard.override given).cycle := by
  have each (k : Setting) (here : k.table = ["cycle"]) (other : k.Kind) :=
    orElse?_of_given (settings k here) other
  refine bind_of_some (record?_of_distinct once _) ?_
  refine bind_of_some (each .tickIntervalMs rfl _) ?_
  refine bind_of_some (each .recoveryDelayMs rfl _) ?_
  exact bind_of_some (each .versionPolicy rfl _) rfl

/-- A table in a table, or one without keys. -/
def child (v : Toml.Value) (name : String) : Toml.Value := (v.at? [name]).getD (.table [])

theorem at?_child (v : Toml.Value) (name next : String) (path : List String) :
    (child v name).at? (next :: path) = v.at? (name :: next :: path) := by
  cases v with
  | table fields =>
    simp only [child, Toml.Value.at?]
    cases fields.lookup name <;> rfl
  | _ => rfl

theorem at?_table (fields : List (String × Toml.Value)) (name : String) :
    (Toml.Value.table fields).at? [name] = fields.lookup name := by
  simp only [Toml.Value.at?]
  cases fields.lookup name <;> rfl

/-- Where there is a table or nothing, the table has keys of its own. -/
theorem child_table {v : Toml.Value} (distinct : v.Distinct) (name : String)
    (table : ∀ w ∈ v.at? [name], ∃ fields, w = .table fields) :
    ∃ fields : List (String × Toml.Value), child v name = .table fields ∧
      (Toml.Value.table fields).Distinct := by
  unfold child
  cases found : v.at? [name] with
  | none => exact ⟨[], rfl, .table List.nodup_nil nofun⟩
  | some w =>
    obtain ⟨fields, rfl⟩ := table w found
    exact ⟨fields, rfl, distinct.at? found⟩

theorem once_of_distinct {fields : List (String × Toml.Value)}
    (distinct : (Toml.Value.table fields).Distinct) : (fields.map Prod.fst).Nodup := by
  cases distinct with
  | table once => exact once

/-- What a document gives is read, and everything else has its standard
value. -/
theorem read?_of_gives {root : Toml.Value} (distinct : root.Distinct) (gives : Gives root given) :
    CoreConfig.read? root = some (standard.override given) := by
  obtain ⟨fields, rfl⟩ := gives.tables .queueCapacity [] List.nil_prefix _ rfl
  obtain ⟨store, isStore, storeDistinct⟩ :=
    child_table distinct "store" (gives.tables .queueCapacity ["store"] (by decide))
  obtain ⟨cycle, isCycle, cycleDistinct⟩ :=
    child_table distinct "cycle" (gives.tables .versionPolicy ["cycle"] (by decide))
  obtain ⟨health, isHealth, healthDistinct⟩ := child_table storeDistinct "health" (by
    rw [← isStore, at?_child]
    exact gives.tables .staleAfterMs ["store", "health"] (by decide))
  have inStore : ∀ k : Setting, k.table = ["store"] →
      (store.lookup k.name).map k.read? = (given k).map some := by
    intro k here
    rw [← gives.settings k, Setting.path, here, ← at?_table, ← isStore, at?_child]
    rfl
  have inHealth : ∀ k : Setting, k.table = ["store", "health"] →
      (health.lookup k.name).map k.read? = (given k).map some := by
    intro k here
    rw [← gives.settings k, Setting.path, here, ← at?_table, ← isHealth, at?_child, ← isStore,
      at?_child]
    rfl
  have inCycle : ∀ k : Setting, k.table = ["cycle"] →
      (cycle.lookup k.name).map k.read? = (given k).map some := by
    intro k here
    rw [← gives.settings k, Setting.path, here, ← at?_table, ← isCycle, at?_child]
    rfl
  have readHealth := health_of_given (once_of_distinct healthDistinct) inHealth
  rw [← isHealth, child, at?_table] at readHealth
  have readStore := store_of_given (once_of_distinct storeDistinct) inStore readHealth
  rw [← isStore, child, at?_table] at readStore
  have readCycle := cycle_of_given (once_of_distinct cycleDistinct) inCycle
  rw [← isCycle, child, at?_table] at readCycle
  have emptyStore : StoreConfig.read? (Toml.Value.table []) = some StoreConfig.standard := rfl
  have emptyCycle : CycleConfig.read? (Toml.Value.table []) = some CycleConfig.standard := rfl
  refine bind_of_some (record?_of_distinct (once_of_distinct distinct) _) ?_
  refine bind_of_some ((orElse?_of_empty emptyStore fields "store").trans readStore) ?_
  exact bind_of_some ((orElse?_of_empty emptyCycle fields "cycle").trans readCycle) rfl

end CoreConfig

/-! ## Documents in their lines -/

/-- What the lines of a document give.  There may be other keys and tables, but
no value stands in the way to a setting, and no setting is a table. -/
structure Toml.Sheet.Gives (s : Toml.Sheet) (given : CoreConfig.Given) : Prop where
  settings : ∀ k : CoreConfig.Setting,
    (s.contents.values.lookup k.path).map k.read? = (given k).map some
  tables : ∀ k : CoreConfig.Setting, ∀ e ∈ s.contents.values, ¬ e.1 <+: k.table
  headers : ∀ k : CoreConfig.Setting, ∀ t ∈ s.contents.headers, ¬ k.path <+: t

/-- What the lines give is what the finished document gives. -/
theorem Toml.Sheet.Gives.root {s : Toml.Sheet} {given : CoreConfig.Given} (gives : s.Gives given)
    {root : Toml.Entries} (view : ∀ path, root.view path = s.contents.place? path) :
    CoreConfig.Gives root.value given where
  tables := by
    intro k q front v here
    have walk : ∀ r, r <+: q → ∀ p ∈ root.view r, ∃ o, p = .table o := by
      intro r lead p there
      rw [view] at there
      exact Toml.Contents.place?_walk (fun e mem _ => gives.tables k e mem) (lead.trans front) there
    cases found : root.view q with
    | none =>
      have absent : root.value.at? q = none := Toml.Entries.at?_of_none found walk
      rw [absent] at here
      cases here
    | some p =>
      obtain ⟨o, rfl⟩ := walk q List.prefix_rfl p found
      obtain ⟨es, isTable⟩ := Toml.Entries.at?_of_table found
      have isTable : root.value.at? q = some es.value := isTable
      rw [isTable] at here
      exact ⟨_, (Option.some.inj here).symm⟩
  settings := by
    intro k
    have notHeader : ¬ (k.path = [] ∨ k.path ∈ s.contents.headers) := by
      rintro (empty | mem)
      · simp [CoreConfig.Setting.path] at empty
      · exact gives.headers k _ mem List.prefix_rfl
    have here := view k.path
    rw [Toml.Contents.place?, if_neg notHeader] at here
    rw [← gives.settings k]
    cases found : s.contents.values.lookup k.path with
    | some v =>
      rw [found] at here
      have there : root.value.at? k.path = some v := Toml.Entries.at?_of_value here
      rw [there]
    | none =>
      have noLead : ¬ ∃ t ∈ s.contents.headers, k.path <+: t := by
        rintro ⟨t, mem, lead⟩
        exact gives.headers k t mem lead
      simp only [found, if_neg noLead] at here
      have absent : root.value.at? k.path = none := by
        refine Toml.Entries.at?_of_none here fun q front p there => ?_
        rcases List.prefix_concat_iff.1 front with rfl | front
        · cases (show none = some p from here.symm.trans there)
        · have there : root.view q = some p := there
          rw [view] at there
          exact Toml.Contents.place?_walk (fun e mem _ => gives.tables k e mem) front there
      rw [absent]

namespace CoreConfig

/-- For every choice of settings: the standard settings with these replaced are
the only ones that have each of them as it is given and every other one at its
standard value.  A document that gives the choice, however it is written, is
judged as these settings are.  And every document of lines in which no key is
given twice, with its keys and tables in any order, other keys and tables in
between and each value in any spelling, is accepted as these settings when they
meet the constraints.  Every number of 63 bits and both policies have a
spelling. -/
theorem ofToml_layered (given : Given) :
    (∀ c : CoreConfig, c = standard.override given ↔
      ∀ k : Setting, k.get c = (given k).getD (k.get standard)) ∧
    (∀ text root, Toml.read? text = some root → Gives root given →
      ofToml text =
        (standard.override given).validate.map fun _ => standard.override given) ∧
    (∀ (s : Toml.Sheet) (text : String), s.contents.Sound → s.Gives given →
      Toml.DocumentText s.statements text →
      (∀ k : Constraint, k.Met (standard.override given)) →
      ofToml text = .ok (standard.override given)) ∧
    (∀ n : UInt64, n.toNat < 9223372036854775808 →
      ∃ v cs, Toml.Spells v cs ∧ Toml.Value.word? v = some n) ∧
    ∀ p : VersionPolicy, ∃ v cs, Toml.Spells v cs ∧ VersionPolicy.read? v = some p := by
  have whole (text : String) (root : Toml.Value) (read : Toml.read? text = some root)
      (gives : Gives root given) :
      ofToml text =
        (standard.override given).validate.map fun _ => standard.override given := by
    have settings := read?_of_gives (Toml.read?_distinct read) gives
    simp only [ofToml, read, Option.bind_some, settings]
  refine ⟨fun c => ⟨?_, fun same => ext_settings fun k => ?_⟩, whole,
    fun s text sound gives lines met => ?_, fun n small => ?_, fun p => ?_⟩
  · rintro rfl
    exact get_override standard given
  · rw [same, get_override]
  · obtain ⟨d, done, view⟩ := s.drafted sound
    have read : Toml.read? text = some d.root.value := by
      rw [Toml.read?_of_document lines, done]
      rfl
    rw [whole text _ read (gives.root view), validate_ok_iff.2 (problems_eq_nil_iff.2 met)]
    rfl
  · refine ⟨_, _, .ofNat small, ?_⟩
    simp [Toml.Value.word?]
  · cases p with
    | strict =>
      exact ⟨.text "strict", _, .quoted (.of_basic (s := "strict".toList) (List.all_eq_true.1 rfl)),
        rfl⟩
    | repair =>
      exact ⟨.text "repair", _, .quoted (.of_basic (s := "repair".toList) (List.all_eq_true.1 rfl)),
        rfl⟩

/-- Three settings in three tables, the inner one first, with other keys and a
comment around them. -/
theorem ofToml_layered_partial :
    ofToml ("extra = 'x'\n[store.health] # limits\nwarn_conflict_ratio = 0.05\n\n[cycle]\r\n" ++
        "version_policy = \"strict\"\nspare = -1_0\n[ store ]\n\tqueue_capacity = 0x80") =
      .ok { standard with
        store := { StoreConfig.standard with
          queueCapacity := 128
          health := { HealthThresholds.standard with warnConflictRatio := 0.05 } }
        cycle := { CycleConfig.standard with versionPolicy := .strict } } := by
  let s : Toml.Sheet := {
    top := [("extra", .text "x")]
    sections := [
      ⟨["store"], "health", [("warn_conflict_ratio", .real 0.05)]⟩,
      ⟨[], "cycle", [("version_policy", .text "strict"), ("spare", .integer (-10))]⟩,
      ⟨[], "store", [("queue_capacity", .integer 128)]⟩] }
  let given : Given := fun
    | .queueCapacity => some (128 : UInt64)
    | .warnConflictRatio => some (0.05 : Float)
    | .versionPolicy => some VersionPolicy.strict
    | _ => none
  have nothing : Toml.Blank [] := nofun
  have space : Toml.Blank [' '] := List.forall_mem_singleton.2 rfl
  have tab : Toml.Blank ['\t'] := List.forall_mem_singleton.2 rfl
  have key {name : String} {cs : List Char} (part : Toml.KeyPart name cs) :
      Toml.KeyText ([] ++ [name]) (cs ++ [' ']) := .last part space
  have extra : Toml.Stated (.pair [] "extra" (.text "x")) _ :=
    .pair (key (.of_bare (by decide) rfl)) (by decide) space
      (.literal (List.forall_mem_singleton.2 (show Toml.isLiteral 'x' = true from rfl)))
  have health : Toml.Stated (.table ["store"] "health") _ :=
    .table nothing (.next (.of_bare (by decide) rfl) nothing nothing
      (.last (.of_bare (by decide) rfl) nothing)) (by decide)
  have limits : Toml.Comment ('#' :: " limits".toList) := .some (List.all_eq_true.1 rfl)
  have ratio : Toml.Stated (.pair [] "warn_conflict_ratio" (.real 0.05)) _ :=
    .pair (key (.of_bare (by decide) rfl)) (by decide) space
      (.fraction .none .zero (.next (d := 0) (c := '0') rfl (.one (d := 5) (c := '5') rfl))
        .none rfl)
  have cycle : Toml.Stated (.table [] "cycle") _ :=
    .table nothing (.last (.of_bare (by decide) rfl) nothing) (by decide)
  have policy : Toml.Stated (.pair [] "version_policy" (.text "strict")) _ :=
    .pair (key (.of_bare (by decide) rfl)) (by decide) space
      (.quoted (.of_basic (s := "strict".toList) (List.all_eq_true.1 rfl)))
  have spare : Toml.Stated (.pair [] "spare" (.integer (-10))) _ :=
    .pair (key (.of_bare (by decide) rfl)) (by decide) space
      (.integer .minus (.digits (.spaced (d := 1) (c := '1') rfl (.one (d := 0) (c := '0') rfl))
        (by decide)) (by decide) (by decide))
  have store : Toml.Stated (.table [] "store") _ :=
    .table space (key (.of_bare (by decide) rfl)) (by decide)
  have capacity : Toml.Stated (.pair [] "queue_capacity" (.integer 128)) _ :=
    .pair (key (.of_bare (by decide) rfl)) (by decide) space
      (.radix (show ('x', 16) ∈ Toml.radices by decide)
        (.next (d := 8) (c := '8') rfl (.one (d := 0) (c := '0') rfl)) (by decide))
  have lines := Toml.Lines.next (.stated nothing extra nothing .none) .feed
    (.next (.stated nothing health space limits) .feed
    (.next (.stated nothing ratio nothing .none) .feed
    (.next (.empty nothing .none) .feed
    (.next (.stated nothing cycle nothing .none) .carriage
    (.next (.stated nothing policy nothing .none) .feed
    (.next (.stated nothing spare nothing .none) .feed
    (.next (.stated nothing store nothing .none) .feed
    (.last (.stated tab capacity nothing .none)))))))))
  refine (ofToml_layered given).2.2.1 s _ ⟨by decide, by decide, by decide⟩ ⟨?_, ?_, ?_⟩
    (.plain (cast (congrArg (Toml.Lines _) (by decide +kernel)) lines)) ?_
  · intro k
    cases k <;> rfl
  · intro k
    cases k <;> decide
  · intro k
    cases k <;> decide
  · intro k
    cases k <;> decide

end CoreConfig

end AgentState
