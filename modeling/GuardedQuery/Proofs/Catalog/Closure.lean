import GuardedQuery.Outline
import GuardedQuery.Proofs.Catalog
import GuardedQuery.Proofs.Store.Totality
import GuardedQuery.Proofs.Vetting.Inspection

/-! What a built catalog is closed under. Relations are followed by several rules: a visible one
along the edges of its model, a path of a request by the walk and by the outline, and a path of a
guard or a row also along hidden relations. Whatever rule is followed from a model of the catalog,
no model is looked for that does not exist. -/

namespace GuardedQuery

namespace Model
variable {m : Model} {name : String}

theorem kind?_of_edge? {edge : Edge} (h : m.edge? name = some edge) :
    ∃ kind, m.kind? name = some kind ∧ kind.target? = some edge.target ∧
      edge.isReverse = kind.isReverse := by
  have named : edge.field = name := by simpa using List.find?_some h
  obtain ⟨field, inFields, made⟩ := List.mem_filterMap.1 (List.mem_of_find?_eq_some h)
  rw [edgeOf?] at made
  split at made
  · rename_i visible
    obtain ⟨target, leads, rfl⟩ := Option.map_eq_some_iff.1 made
    refine ⟨field.kind, ?_, leads, rfl⟩
    rw [kind?, Schema.field?_eq_some_iff.2 ⟨inFields, named⟩, Option.bind_some, if_pos visible]
  · cases made

/-- A relation is visible iff it has an edge, and the edge leads where the relation does. -/
theorem target_edge? (m : Model) (name : String) :
    (m.edge? name).map Edge.target = m.target? name := by
  cases found : m.edge? name with
  | some edge =>
    obtain ⟨kind, known, leads, _⟩ := kind?_of_edge? found
    rw [target?, known, Option.bind_some, leads]
    rfl
  | none =>
    cases leads : m.target? name with
    | none => rfl
    | some target =>
      obtain ⟨edge, mem, rfl, _⟩ := exists_edge_iff.2 leads
      simpa using List.find?_eq_none.1 found edge mem

end Model

namespace Catalog
variable {c : Catalog}

theorem Closed.modelsAlong (closed : c.Closed) {model : String} {m : Model}
    (known : c.model? model = some m) (names : List String) :
    ∃ reached, c.modelsAlong model names = .ok reached ∧
      ∀ name ∈ reached, ∃ next, c.model? name = some next := by
  induction names generalizing model m with
  | nil => exact ⟨[], rfl, nofun⟩
  | cons first rest ih =>
    rw [Catalog.modelsAlong, get_ok_iff.2 known]
    simp only [bind, Except.bind]
    split
    · rename_i target leads
      obtain ⟨next, found⟩ := closed model m known first target leads
      obtain ⟨reached, along, all⟩ := ih found
      refine ⟨target :: reached, by rw [along]; rfl, fun name mem => ?_⟩
      rcases List.mem_cons.1 mem with rfl | mem
      · exact ⟨next, found⟩
      · exact all name mem
    · exact ⟨[], rfl, nofun⟩

end Catalog

namespace Access
variable {a : Access} {model : String} {m : Model}

theorem isRefusal_of_walk (closed : a.catalog.Closed) (known : a.catalog.model? model = some m)
    {use : PathUse} {path : String} {atRoot : Bool} {names : List String} {e : Error}
    (h : a.walk use path atRoot model names = .error e) : e.IsRefusal := by
  induction names generalizing atRoot model m with
  | nil => cases h
  | cons name rest ih =>
    rw [walk_cons] at h
    split at h
    · cases h
      exact PathUse.isRefusal_missing
    simp only [Catalog.get_ok_iff.2 known, bind, Except.bind] at h
    rcases use.inspect_cases path model atRoot m (m.fields a.request .read) name rest.isEmpty with
      ⟨refusal, same, refuses⟩ | same | ⟨target, same, leads⟩
    all_goals simp only [same] at h
    · cases h
      exact refuses
    · cases h
    · obtain ⟨next, found⟩ := closed.found known leads
      exact ih found h

theorem isRefusal_of_follow (closed : a.catalog.Closed) (known : a.catalog.model? model = some m)
    {use : FieldUse} {names : List String} {o : Outline} {e : Error}
    (h : a.follow use model names o = .error e) : e.IsRefusal := by
  induction names generalizing model m o with
  | nil => cases h
  | cons name rest ih =>
    simp only [follow, Catalog.get_ok_iff.2 known, bind, Except.bind] at h
    split at h
    · -- the last name brings its target along, and nothing is refused
      split at h <;> cases h
    split at h
    · split at h <;> cases h
      trivial
    · have further {kind : FieldKind} {target : String} {o : Outline}
          (declared : m.kind? name = some kind) (leads : kind.target? = some target)
          (h : a.follow use target rest o = .error e) : e.IsRefusal := by
        have visible : m.target? name = some target := by
          rw [Model.target?, declared, Option.bind_some, leads]
        obtain ⟨next, found⟩ := closed.found known visible
        exact ih found h
      split at h
      case h_1 => cases h
      case h_2 | h_3 | h_4 => exact further (by assumption) rfl h
      case h_5 =>
        split at h <;> cases h
        trivial

theorem isRefusal_of_outline (closed : a.catalog.Closed) (known : a.catalog.model? model = some m)
    {use : FieldUse} {depth : Nat} {paths : List String} {e : Error}
    (h : a.outline model use depth paths = .error e) : e.IsRefusal := by
  simp only [outline, Catalog.get_ok_iff.2 known, bind, Except.bind] at h
  split at h
  · cases h
  rename_i requested
  clear requested
  generalize Dict.empty.insert model NameSet.empty = o at h
  induction paths generalizing o with
  | nil => cases h
  | cons path rest ih =>
    rw [List.foldlM_cons] at h
    rcases Checks.bind_error_iff.1 h with first | ⟨between, _, others⟩
    · exact isRefusal_of_follow closed known first
    · exact ih between others

end Access

theorem Store.related_cases {s : Store} (closed : s.catalog.Closed) {model : String} {m : Model}
    (known : s.catalog.model? model = some m) (row : Row) (field : String) :
    (∃ rows, s.related model row field = .ok rows) ∨
      s.related model row field = .error (noRelation m field) := by
  have found : s.model model = .ok m := model_ok_iff.2 known
  have same : s.related model row field = s.relatedRows m row field := by
    rw [related, found]
    rfl
  rw [same]
  cases leads : (m.schema.kind? field).bind FieldKind.target? with
  | some target =>
    obtain ⟨kind, declared, leads⟩ := Option.bind_eq_some_iff.1 leads
    exact .inl (exists_relatedRows closed found declared leads row)
  | none =>
    right
    rw [relatedRows]
    split
    case h_1 declared | h_2 declared | h_3 declared =>
      rw [declared] at leads
      cases leads
    case h_4 => rfl

/-! What closure comes to -/

/-- From a model no rule of following relations leads out of the catalog. -/
structure Catalog.Resolves (c : Catalog) (model : String) (m : Model) : Prop where
  /-- The visible relations have edges, and nothing else has. -/
  edges : ∀ field, (m.edge? field).map Edge.target = m.target? field
  /-- An edge leads to the model that it names and tells reverse relations apart. -/
  edge : ∀ field edge, m.edge? field = some edge →
    (∃ next, c.model? edge.target = some next ∧ next.name = edge.target) ∧
    ∃ kind, m.kind? field = some kind ∧ edge.isReverse = kind.isReverse
  /-- Hidden relations lead to models too. -/
  registered : ∀ field ∈ m.schema.fields, ∀ target, field.kind.target? = some target →
    ∃ next, c.model? target = some next ∧ next.name = target
  along : ∀ path, ∃ reached, c.modelsAlong model (Path.segments path) = .ok reached ∧
    ∀ name ∈ reached, ∃ next, c.model? name = some next
  vetted : ∀ a : Access, a.catalog = c → ∀ use path e,
    a.vetPath model use path = .error e → e.IsRefusal
  outlined : ∀ a : Access, a.catalog = c → ∀ use depth paths e,
    a.outline model use depth paths = .error e → e.IsRefusal
  values : ∀ s : Store, s.catalog = c → ∀ row path,
    ∃ values, s.valuesAlong model row (Path.segments path) = .ok values
  related : ∀ s : Store, s.catalog = c → ∀ row field,
    (∃ rows, s.related model row field = .ok rows) ∨
      s.related model row field = .error (Store.noRelation m field)

/-- Every model of a catalog that has been built is closed in, whatever its relations are. -/
theorem Catalog.resolves_of_build {models : List Model} {c : Catalog}
    (built : Catalog.build models = .ok c) {model : String} {m : Model}
    (known : c.model? model = some m) : c.Resolves model m := by
  have closed := closed_of_build built
  have named {target : String} (found : ∃ next, c.model? target = some next) :
      ∃ next, c.model? target = some next ∧ next.name = target := by
    obtain ⟨next, found⟩ := found
    exact ⟨next, found, (mem_of_build built found).2⟩
  refine ⟨m.target_edge?, fun field edge found => ?_, fun field mem target leads => ?_,
    fun path => closed.modelsAlong known _, ?_, ?_, ?_, ?_⟩
  · obtain ⟨kind, declared, leads, reverse⟩ := Model.kind?_of_edge? found
    have visible : m.target? field = some edge.target := by
      rw [Model.target?, declared, Option.bind_some, leads]
    exact ⟨named (closed.found known visible), kind, declared, reverse⟩
  · refine named (closed model m known field.name target ?_)
    rw [Schema.kind?, Schema.field?_eq_some_iff.2 ⟨mem, rfl⟩, Option.map_some, Option.bind_some,
      leads]
  · rintro a rfl use path e refused
    exact Access.isRefusal_of_walk closed known refused
  · rintro a rfl use depth paths e refused
    exact Access.isRefusal_of_outline closed known refused
  · rintro s rfl row path
    exact Store.exists_valuesAlong closed (Store.model_ok_iff.2 known) row _
  · rintro s rfl row field
    exact Store.related_cases closed known row field

namespace Staff

/-- A worker has a boss, who is a worker; those that a boss has are hidden. -/
def worker : Model :=
  Model.ofSchema (((Schema.ofKey "worker" "id").withField ⟨"boss", .toOne "worker"⟩).withField
    ⟨"reports", .reverse "worker" "boss"⟩)

def catalog : Catalog := ⟨.ofList [("worker", worker)]⟩

/-- The hidden relation has no edge, and paths lead along it all the same. -/
theorem workers_resolve :
    Catalog.build [worker] = .ok catalog ∧ catalog.model? "worker" = some worker ∧
    worker.edge? "reports" = none ∧
    catalog.modelsAlong "worker" ["boss", "reports"] = .ok ["worker", "worker"] ∧
    catalog.Resolves "worker" worker := by
  have built : Catalog.build [worker] = .ok catalog := rfl
  have known : catalog.model? "worker" = some worker := rfl
  exact ⟨built, known, rfl, rfl, Catalog.resolves_of_build built known⟩

end Staff

end GuardedQuery
