import GuardedQuery.Plan
import GuardedQuery.Proofs.Predicate.Acceptance
import GuardedQuery.Proofs.Predicate.Meaning
import GuardedQuery.Proofs.Store.Indexed
import GuardedQuery.Proofs.Vetting.Walk

/-! What reading depends on. A path, a predicate, an order or an aggregate looks at the rows of the
selected model and of the models that the store follows its paths to, and at nothing else in the
store. The walk that lists the models follows what the store does except behind an alias of a
primary key that is a relation. Even the rows of one model do not matter as long as no relation is
followed to them. -/

namespace GuardedQuery

/-- The models that the segments lead to are among the given ones. -/
def Catalog.Covers (c : Catalog) (models : NameSet) (model : String) (segments : List String) :
    Prop :=
  ∃ found, c.modelsAlong model segments = .ok found ∧ ∀ name ∈ found, name ∈ models

theorem Catalog.Covers.step {c : Catalog} {models : NameSet} {model first : String}
    {rest : List String} (h : c.Covers models model (first :: rest)) :
    ∃ m, c.get model = .ok m ∧ ∀ target,
      (m.schema.kind? first).bind FieldKind.target? = some target →
      target ∈ models ∧ c.Covers models target rest := by
  obtain ⟨found, along, inside⟩ := h
  rw [modelsAlong] at along
  obtain ⟨m, known, along⟩ := Checks.bind_ok_iff.1 along
  refine ⟨m, known, fun target leads => ?_⟩
  simp only [leads] at along
  obtain ⟨deeper, further, along⟩ := Checks.bind_ok_iff.1 along
  rw [← Checks.pure_ok_iff.1 along] at inside
  exact ⟨inside target List.mem_cons_self, deeper, further,
    fun name mem => inside name (List.mem_cons_of_mem _ mem)⟩

/-- Every model whose rows the store looks at along the segments is as `P` says. -/
def Catalog.Along (c : Catalog) (P : String → Prop) : String → List String → Prop
  | _, [] => True
  | model, first :: rest => ∀ m kind target, c.model? model = some m →
      m.schema.kind? (m.column first) = some kind → kind.hop? (!rest.isEmpty) = some target →
      P target ∧ c.Along P target rest

theorem Catalog.Along.mono {c : Catalog} {P Q : String → Prop} {model : String}
    {segments : List String} (h : c.Along P model segments) (weaker : ∀ name, P name → Q name) :
    c.Along Q model segments := by
  induction segments generalizing model with
  | nil => trivial
  | cons first rest ih =>
    intro m kind target found known hop
    obtain ⟨here, further⟩ := h m kind target found known hop
    exact ⟨weaker target here, ih further⟩

/-- No relation is followed by an alias of the primary key. -/
def Catalog.Direct (c : Catalog) : String → List String → Prop
  | _, [] => True
  | model, first :: rest => ∀ m kind target, c.model? model = some m →
      m.schema.kind? (m.column first) = some kind → kind.hop? (!rest.isEmpty) = some target →
      m.column first = first ∧ c.Direct target rest

/-- The walk lists the models that the store follows relations to by their own names. -/
theorem Catalog.Covers.along {c : Catalog} {models : NameSet} {model : String}
    {segments : List String} (h : c.Covers models model segments)
    (direct : c.Direct model segments) : c.Along (· ∈ models) model segments := by
  induction segments generalizing model with
  | nil => trivial
  | cons first rest ih =>
    intro m kind target found known hop
    obtain ⟨m', walked, further⟩ := h.step
    obtain rfl := Option.some.inj (found.symm.trans (Catalog.get_ok_iff.1 walked))
    obtain ⟨named, others⟩ := direct m kind target found known hop
    have leads : (m.schema.kind? first).bind FieldKind.target? = some target := by
      rw [← named, known, Option.bind_some, FieldKind.target?_of_hop? hop]
    obtain ⟨inside, deeper⟩ := further target leads
    exact ⟨inside, ih deeper others⟩

/-- Where no primary key is a relation, every path is direct. -/
theorem Catalog.PlainKeys.direct {c : Catalog} (keys : c.PlainKeys) (model : String)
    (segments : List String) : c.Direct model segments := by
  induction segments generalizing model with
  | nil => trivial
  | cons first rest ih =>
    intro m kind target found known hop
    refine ⟨?_, ih target⟩
    by_cases key : m.isKey first = true
    · have own : m.column first = m.schema.key := if_pos key
      have plain := keys model m found
      rw [← own, known, Option.bind_some, FieldKind.target?_of_hop? hop] at plain
      cases plain
    · exact if_neg key

/-- No condition and no order term of the selection follows a relation by an alias of the primary
key. -/
structure Selection.Direct (c : Catalog) (sel : Selection) : Prop where
  conditions : ∀ condition ∈ sel.predicate.conditions, c.Direct sel.model condition.segments
  order : ∀ term ∈ sel.order, c.Direct sel.model (Path.segments term.path)

namespace Store
variable {s s' : Store} {models : NameSet} {c : Catalog}

/-- The stores are of one catalog and hold the same rows of the given models. -/
structure Agree (models : NameSet) (s s' : Store) : Prop where
  catalog : s'.catalog = s.catalog
  tables : ∀ model ∈ models, s'.table model = s.table model

theorem Agree.symm (agree : s.Agree models s') : s'.Agree models s :=
  ⟨agree.catalog.symm, fun model mem => (agree.tables model mem).symm⟩

theorem model_congr (catalog : s'.catalog = s.catalog) : s'.model = s.model := by
  funext name
  rw [Store.model, Store.model, catalog]

theorem Agree.rows (agree : s.Agree models s') {model : String} (mem : model ∈ models) :
    s'.rows model = s.rows model := by
  rw [Store.rows, Store.rows, model_congr agree.catalog, agree.tables model mem]

theorem relatedRows_congr (catalog : s'.catalog = s.catalog) {m : Model} {field : String}
    (tables : ∀ target, (m.schema.kind? field).bind FieldKind.target? = some target →
      s'.table target = s.table target) (row : Row) :
    s'.relatedRows m row field = s.relatedRows m row field := by
  rw [Store.relatedRows, Store.relatedRows]
  cases known : m.schema.kind? field with
  | none => rfl
  | some kind =>
    rw [known] at tables
    cases kind with
    | scalar | json => rfl
    | toOne target | toMany target =>
      have rows : s'.row? target = s.row? target := by
        funext key
        rw [Store.row?, Store.row?, tables target rfl]
      simp only [rows]
    | reverse target via =>
      have rows : s'.rows target = s.rows target := by
        simp only [Store.rows, Store.model, catalog, tables target rfl]
      simp only [rows]

theorem related_congr (catalog : s'.catalog = s.catalog) {model field : String}
    (tables : ∀ m target, s.model model = .ok m →
      (m.schema.kind? field).bind FieldKind.target? = some target →
      s'.table target = s.table target) (row : Row) :
    s'.related model row field = s.related model row field := by
  have models : s'.model model = s.model model := by
    rw [Store.model, Store.model, catalog]
  rw [Store.related, Store.related, models]
  cases known : s.model model with
  | error fault => rfl
  | ok m => exact relatedRows_congr catalog (fun target leads => tables m target known leads) row

theorem Agree.related (agree : s.Agree models s') {model field : String}
    (inside : ∀ m target, s.catalog.get model = .ok m →
      (m.schema.kind? field).bind FieldKind.target? = some target → target ∈ models) (row : Row) :
    s'.related model row field = s.related model row field := by
  refine related_congr agree.catalog (fun m target known leads => ?_) row
  have found : s.catalog.get model = .ok m := by
    rw [Catalog.get_ok_iff, ← model_ok_iff, known]
  exact agree.tables target (inside m target found leads)

/-! Paths, orders and aggregates on two stores of one catalog -/

/-- By induction on the path: the rows behind each relation that the store follows are those of a
model of which the stores hold the same rows. -/
theorem valuesAlong_congr (catalog : s'.catalog = s.catalog) {model : String}
    {segments : List String}
    (along : s.catalog.Along (fun name => s'.table name = s.table name) model segments)
    (row : Row) :
    s'.valuesAlong model row segments = s.valuesAlong model row segments := by
  induction segments generalizing model row with
  | nil => rfl
  | cons first rest ih =>
    rw [Store.valuesAlong, Store.valuesAlong, model_congr catalog]
    cases found : s.model model with
    | error fault => rfl
    | ok m =>
      have hops (kind : FieldKind) (target : String) := along m kind target (model_ok_iff.1 found)
      have refold : (if m.isKey first = true then m.schema.key else first) = m.column first := rfl
      simp only [bind, Except.bind, refold]
      cases known : m.schema.kind? (m.column first) with
      | none => cases rest <;> rfl
      | some kind =>
        have related {target : String} (leads : kind.target? = some target)
            (same : s'.table target = s.table target) :
            s'.relatedRows m row (m.column first) = s.relatedRows m row (m.column first) := by
          refine relatedRows_congr catalog (fun reached there => ?_) row
          rw [known, Option.bind_some, leads] at there
          exact Option.some.inj there ▸ same
        cases kind with
        | scalar | json => cases rest <;> rfl
        | toOne target | toMany target =>
          cases rest with
          | nil => rfl
          | cons second others =>
            obtain ⟨same, further⟩ := hops _ target known rfl
            simp only [related rfl same, ih further]
        | reverse target via =>
          obtain ⟨same, further⟩ := hops _ target known rfl
          cases rest with
          | nil => simp only [related rfl same]
          | cons second others => simp only [related rfl same, ih further]

theorem select_congr {sel : Selection} (catalog : s'.catalog = s.catalog)
    (kept : s'.matching sel.model sel.predicate = s.matching sel.model sel.predicate)
    (order : ∀ term ∈ sel.order, s.catalog.Along (fun name => s'.table name = s.table name)
      sel.model (Path.segments term.path)) : s'.select sel = s.select sel := by
  have keys (row : Row) : s'.sortKeys sel.model sel.order row =
      s.sortKeys sel.model sel.order row := by
    rw [Store.sortKeys, Store.sortKeys]
    refine Checks.mapM_congr fun term mem => ?_
    rw [valuesAlong_congr catalog (order term mem)]
  simp only [Store.select, Store.sorted, model_congr catalog, kept, keys]

theorem aggregate_congr {sel : Selection} {field : String} (catalog : s'.catalog = s.catalog)
    (selected : s'.select sel = s.select sel)
    (along : s.catalog.Along (fun name => s'.table name = s.table name) sel.model
      (Path.segments field)) (function : Aggregate) :
    s'.aggregate sel function field = s.aggregate sel function field := by
  have along (row : Row) := valuesAlong_congr catalog along row
  simp only [Store.aggregate, Store.collect, selected, along]

/-! Selections -/

/-- The rows of a selection, and the models that its conditions and its order lead to, are rows of
the given models. -/
structure Looks (c : Catalog) (models : NameSet) (sel : Selection) : Prop where
  own : sel.model ∈ models
  conditions : ∀ condition ∈ sel.predicate.conditions, c.Covers models sel.model condition.segments
  order : ∀ term ∈ sel.order, c.Covers models sel.model (Path.segments term.path)

theorem Agree.along (agree : s.Agree models s') (same : s.catalog = c) {model : String}
    {segments : List String} (covers : c.Covers models model segments)
    (direct : c.Direct model segments) :
    s.catalog.Along (fun name => s'.table name = s.table name) model segments := by
  subst same
  exact (covers.along direct).mono agree.tables

theorem Agree.select (agree : s.Agree models s') (same : s.catalog = c) {sel : Selection}
    (looks : Looks c models sel) (direct : sel.Direct c) :
    s'.select sel = s.select sel := by
  have held (row : Row) :
      s'.holds sel.model row sel.predicate = s.holds sel.model row sel.predicate :=
    holds_congr sel.predicate fun condition mem => valuesAlong_congr agree.catalog
      (agree.along same (looks.conditions condition mem) (direct.conditions condition mem)) row
  refine select_congr agree.catalog ?_ fun term mem =>
    agree.along same (looks.order term mem) (direct.order term mem)
  simp only [matching, agree.rows looks.own, held]

theorem Agree.aggregate (agree : s.Agree models s') (same : s.catalog = c) {sel : Selection}
    (looks : Looks c models sel) (direct : sel.Direct c) (function : Aggregate)
    {field : String} (covers : c.Covers models sel.model (Path.segments field))
    (path : c.Direct sel.model (Path.segments field)) :
    s'.aggregate sel function field = s.aggregate sel function field :=
  aggregate_congr agree.catalog (agree.select same looks direct) (agree.along same covers path)
    function

end Store

/-! Stores that differ in the rows of one model. They are not told apart as long as no relation is
followed to this model and its own rows are read by a selection that keeps the same rows of both.
-/

/-- No relation that the path is followed along leads to the rows of the avoided model. The path
may end at a column that holds keys of such rows. -/
def Catalog.Avoids (c : Catalog) (avoided : String) : String → List String → Prop
  | _, [] => True
  | model, first :: rest => ∀ m kind target, c.model? model = some m →
      m.schema.kind? (m.column first) = some kind → kind.hop? (!rest.isEmpty) = some target →
      target ≠ avoided ∧ c.Avoids avoided target rest

/-- Where no field is a relation, no path leads anywhere. -/
theorem Catalog.avoids_of_kinds {c : Catalog}
    (plain : ∀ name m, c.model? name = some m → ∀ f ∈ m.schema.fields, f.kind.target? = none)
    (avoided model : String) (segments : List String) : c.Avoids avoided model segments := by
  cases segments with
  | nil => trivial
  | cons first rest =>
    intro m kind target found known hop
    obtain ⟨f, listed, rfl⟩ := Option.map_eq_some_iff.1 known
    have none := plain model m found f (List.mem_of_find?_eq_some listed)
    rw [FieldKind.target?_of_hop? hop] at none
    cases none

namespace Store
variable {s s' : Store} {avoided : String}

/-- The stores are of one catalog and hold the same rows of all models but one. -/
structure Apart (avoided : String) (s s' : Store) : Prop where
  catalog : s'.catalog = s.catalog
  tables : ∀ other, other ≠ avoided → s'.table other = s.table other

namespace Apart

theorem related (apart : s.Apart avoided s') {model field : String}
    (elsewhere : ∀ m kind target, s.model model = .ok m → m.schema.kind? field = some kind →
      kind.target? = some target → target ≠ avoided) (row : Row) :
    s'.related model row field = s.related model row field := by
  refine related_congr apart.catalog (fun m target found leads => ?_) row
  obtain ⟨kind, known, there⟩ := Option.bind_eq_some_iff.1 leads
  exact apart.tables target (elsewhere m kind target found known there)

/-- What avoids the model looks at tables that the stores share. -/
theorem along (apart : s.Apart avoided s') {model : String} {segments : List String}
    (avoids : s.catalog.Avoids avoided model segments) :
    s.catalog.Along (fun name => s'.table name = s.table name) model segments := by
  induction segments generalizing model with
  | nil => trivial
  | cons first rest ih =>
    intro m kind target found known hop
    obtain ⟨ne, further⟩ := avoids m kind target found known hop
    exact ⟨apart.tables target ne, ih further⟩

theorem valuesAlong (apart : s.Apart avoided s') {model : String} {segments : List String}
    (avoids : s.catalog.Avoids avoided model segments) (row : Row) :
    s'.valuesAlong model row segments = s.valuesAlong model row segments :=
  valuesAlong_congr apart.catalog (apart.along avoids) row

theorem holds (apart : s.Apart avoided s') {model : String} {p : Predicate}
    (avoids : ∀ c ∈ p.conditions, s.catalog.Avoids avoided model c.segments) (row : Row) :
    s'.holds model row p = s.holds model row p :=
  holds_congr p fun c mem => apart.valuesAlong (avoids c mem) row

/-! Selections that keep the same rows of both stores -/

variable {sel : Selection}

theorem select (apart : s.Apart avoided s')
    (kept : s'.matching sel.model sel.predicate = s.matching sel.model sel.predicate)
    (order : ∀ term ∈ sel.order, s.catalog.Avoids avoided sel.model (Path.segments term.path)) :
    s'.select sel = s.select sel :=
  select_congr apart.catalog kept fun term mem => apart.along (order term mem)

theorem aggregate (apart : s.Apart avoided s') (selected : s'.select sel = s.select sel)
    {field : String} (avoids : s.catalog.Avoids avoided sel.model (Path.segments field))
    (function : Aggregate) : s'.aggregate sel function field = s.aggregate sel function field :=
  aggregate_congr apart.catalog selected (apart.along avoids) function

end Apart

/-! Rows that a test turns down -/

theorem keepIf_filter {test : Row → Except Error Bool} {keep : Row → Bool} {rows : List Row}
    (rejected : ∀ row ∈ rows, keep row = false → test row = .ok false) :
    keepIf test rows = keepIf test (rows.filter keep) := by
  induction rows with
  | nil => rfl
  | cons row rest ih =>
    obtain ⟨here, others⟩ := List.forall_mem_cons.1 rejected
    cases kept : keep row with
    | true => rw [List.filter_cons_of_pos kept, keepIf, keepIf, ih others]
    | false =>
      rw [List.filter_cons_of_neg (by simp [kept]), ← ih others, keepIf, here kept]
      cases keepIf test rest <;> rfl

/-- The rows that satisfy a predicate can be looked for among rows that it does not turn down. -/
theorem matching_filter {model : String} {m : Model} (found : s.model model = .ok m)
    {p : Predicate} {keep : Row → Bool}
    (rejected : ∀ row ∈ (s.table model).values, keep row = false → s.Rejects model row p) :
    s.matching model p =
      keepIf (fun row => s.holds model row p) ((s.table model).values.filter keep) := by
  simp only [matching, Store.rows, found, bind, Except.bind, pure, Except.pure]
  exact keepIf_filter rejected

end Store

end GuardedQuery
