import GuardedQuery.Proofs.Checks
import GuardedQuery.Proofs.Vetting.Walk
import Mathlib.Data.List.Nodup

/-! What building a catalog has checked: every relation leads to a model of the catalog, whether it
is visible or not, and a reverse relation reverses a relation to one row. -/

namespace GuardedQuery

namespace Model
variable {m : Model} {name target : String}

theorem target?_eq_some_iff :
    m.target? name = some target ↔
      ∃ field, m.schema.field? name = some field ∧ m.isTraversable field = true ∧
        field.kind.target? = some target := by
  constructor
  · intro h
    obtain ⟨kind, known, leads⟩ := Option.bind_eq_some_iff.1 h
    obtain ⟨field, found, shown⟩ := Option.bind_eq_some_iff.1 known
    split at shown
    · rename_i visible
      cases shown
      exact ⟨field, found, visible, leads⟩
    · cases shown
  · rintro ⟨field, found, visible, leads⟩
    rw [target?, kind?, found, Option.bind_some, if_pos visible, Option.bind_some, leads]

end Model

theorem Schema.field?_eq_some_iff {s : Schema} {name : String} {field : Field} :
    s.field? name = some field ↔ field ∈ s.fields ∧ field.name = name := by
  constructor
  · intro found
    exact ⟨List.mem_of_find?_eq_some found, by simpa using List.find?_some found⟩
  · rintro ⟨mem, rfl⟩
    cases found : s.field? field.name with
    | none => simpa using List.find?_eq_none.1 found field mem
    | some other =>
      -- field names are distinct
      have named : other.name = field.name := by simpa using List.find?_some found
      rw [List.inj_on_of_nodup_map s.distinct (List.mem_of_find?_eq_some found) mem named]

namespace Model
variable {m : Model}

/-- The edges are the visible relations. -/
theorem exists_edge_iff {name target : String} :
    (∃ edge ∈ m.edges, edge.field = name ∧ edge.target = target) ↔
      m.target? name = some target := by
  rw [target?_eq_some_iff]
  constructor
  · rintro ⟨edge, mem, rfl, rfl⟩
    obtain ⟨field, inFields, made⟩ := List.mem_filterMap.1 mem
    rw [edgeOf?] at made
    split at made
    · rename_i visible
      obtain ⟨target, leads, rfl⟩ := Option.map_eq_some_iff.1 made
      exact ⟨field, Schema.field?_eq_some_iff.2 ⟨inFields, rfl⟩, visible, leads⟩
    · cases made
  · rintro ⟨field, found, visible, leads⟩
    obtain ⟨inFields, rfl⟩ := Schema.field?_eq_some_iff.1 found
    exact ⟨⟨field.name, target, field.kind.isReverse⟩,
      List.mem_filterMap.2 ⟨field, inFields, by rw [edgeOf?, if_pos visible, leads]; rfl⟩,
      rfl, rfl⟩

end Model

namespace Entries
variable {α : Type}

theorem mem_of_get?_foldl {pairs : List (String × α)} {key : String} {value : α} {start : Entries α}
    (found : get? (pairs.foldl (fun entries pair => insert pair.1 pair.2 entries) start) key =
      some value) : (key, value) ∈ pairs ∨ get? start key = some value := by
  induction pairs generalizing start with
  | nil => exact .inr found
  | cons pair rest ih =>
    rcases ih found with mem | found
    · exact .inl (List.mem_cons_of_mem _ mem)
    · simp only at found
      by_cases same : pair.1 = key
      · rw [same, get?_insert_self] at found
        exact .inl (List.mem_cons.2 (.inl (Prod.ext same.symm (Option.some.inj found).symm)))
      · rw [get?_insert_of_ne same] at found
        exact .inr found

theorem mem_of_get?_ofList {pairs : List (String × α)} {key : String} {value : α}
    (found : get? (ofList pairs) key = some value) : (key, value) ∈ pairs :=
  (mem_of_get?_foldl found).resolve_right nofun

end Entries

namespace Catalog
variable {c : Catalog}

/-- Every relation leads to a model of the catalog. -/
def Closed (c : Catalog) : Prop :=
  ∀ model m, c.model? model = some m →
    ∀ name target, (m.schema.kind? name).bind FieldKind.target? = some target →
      ∃ t, c.model? target = some t

theorem rejectFirst_ok_iff {faults : List Error} : rejectFirst faults = .ok () ↔ faults = [] := by
  cases faults <;> simp [rejectFirst]

theorem contains_of_edgeFault? {models : Dict Model} {edge : Edge}
    (sound : edgeFault? models edge = none) : models.contains edge.target = true := by
  by_contra absent
  simp [edgeFault?, absent] at sound

theorem found_of_reverseFault? {models : Dict Model} {m : Model} {field : Field}
    (sound : reverseFault? models m field = none) {target via : String}
    (reverse : field.kind = .reverse target via) :
    ∃ t, models.get? target = some t ∧ t.schema.kind? via = some (.toOne m.name) := by
  rw [reverseFault?, reverse] at sound
  simp only at sound
  split at sound
  · cases sound
  · rename_i t found
    split at sound
    · rename_i back
      exact ⟨t, found, back⟩
    · cases sound

/-- The checks of the relations have passed for every model of a catalog that has been built. -/
theorem checks_of_build {models : List Model} (built : build models = .ok c) {model : String}
    {m : Model} (found : c.model? model = some m) :
    (∀ field ∈ m.schema.fields, reverseFault? c.models m field = none) ∧
      ∀ edge ∈ m.edges, edgeFault? c.models edge = none := by
  rw [build] at built
  obtain ⟨_, _, built⟩ := Checks.bind_ok_iff.1 built
  obtain ⟨_, _, built⟩ := Checks.bind_ok_iff.1 built
  obtain ⟨_, reversed, built⟩ := Checks.bind_ok_iff.1 built
  obtain ⟨_, led, built⟩ := Checks.bind_ok_iff.1 built
  cases Checks.pure_ok_iff.1 built
  have mem := mem_values_of_model? found
  have noReverse := List.flatMap_eq_nil_iff.1 (rejectFirst_ok_iff.1 reversed) m mem
  have noEdge := List.flatMap_eq_nil_iff.1 (rejectFirst_ok_iff.1 led) m mem
  exact ⟨fun field => List.filterMap_eq_nil_iff.1 noReverse field,
    fun edge => List.filterMap_eq_nil_iff.1 noEdge edge⟩

/-- The models of a catalog are those that it has been built from. -/
theorem mem_of_build {models : List Model} (built : build models = .ok c) {model : String}
    {m : Model} (found : c.model? model = some m) : m ∈ models ∧ m.name = model := by
  rw [build] at built
  obtain ⟨_, _, built⟩ := Checks.bind_ok_iff.1 built
  obtain ⟨_, _, built⟩ := Checks.bind_ok_iff.1 built
  obtain ⟨_, _, built⟩ := Checks.bind_ok_iff.1 built
  obtain ⟨_, _, built⟩ := Checks.bind_ok_iff.1 built
  cases Checks.pure_ok_iff.1 built
  obtain ⟨other, mem, same⟩ := List.mem_map.1 (Entries.mem_of_get?_ofList found)
  obtain ⟨named, rfl⟩ := Prod.mk.inj same
  exact ⟨mem, named⟩

/-- No computed field has the name of a declared one. -/
theorem field?_of_computed {models : List Model} (built : build models = .ok c) {model : String}
    {m : Model} (found : c.model? model = some m) {field : ComputedField}
    (computed : field ∈ m.computed) : m.schema.field? field.name = none := by
  have mem := (mem_of_build built found).1
  rw [build] at built
  obtain ⟨_, _, built⟩ := Checks.bind_ok_iff.1 built
  obtain ⟨_, checked, _⟩ := Checks.bind_ok_iff.1 built
  have passed := Checks.forM_ok_iff.1 checked m mem
  unfold checkComputed at passed
  split at passed
  · cases passed
  · rename_i none
    simpa using List.find?_eq_none.1 none field computed

theorem closed_of_build {models : List Model} (built : build models = .ok c) : c.Closed := by
  intro model m found name target leads
  obtain ⟨noReverse, noEdge⟩ := checks_of_build built found
  obtain ⟨kind, known, toTarget⟩ := Option.bind_eq_some_iff.1 leads
  obtain ⟨field, declared, rfl⟩ := Option.map_eq_some_iff.1 known
  obtain ⟨mem, rfl⟩ := Schema.field?_eq_some_iff.1 declared
  cases visible : m.isTraversable field with
  | true =>
    obtain ⟨edge, inEdges, -, rfl⟩ := Model.exists_edge_iff.2
      (Model.target?_eq_some_iff.2 ⟨field, declared, visible, toTarget⟩)
    exact Option.isSome_iff_exists.1 (contains_of_edgeFault? (noEdge edge inEdges))
  | false =>
    -- only reverse relations can be hidden
    cases kindOf : field.kind with
    | reverse other via =>
      rw [kindOf] at toTarget
      cases toTarget
      obtain ⟨t, targetFound, -⟩ := found_of_reverseFault? (noReverse field mem) kindOf
      exact ⟨t, targetFound⟩
    | scalar | json | toOne _ | toMany _ =>
      simp [Model.isTraversable, kindOf, FieldKind.isReverse] at visible

/-- A visible relation leads to a model of the catalog. -/
theorem Closed.found (closed : c.Closed) {model name target : String} {m : Model}
    (found : c.model? model = some m) (leads : m.target? name = some target) :
    ∃ t, c.model? target = some t := by
  obtain ⟨field, declared, -, toTarget⟩ := Model.target?_eq_some_iff.1 leads
  refine closed model m found name target ?_
  rw [Schema.kind?, declared, Option.map_some, Option.bind_some, toTarget]

end Catalog

end GuardedQuery
