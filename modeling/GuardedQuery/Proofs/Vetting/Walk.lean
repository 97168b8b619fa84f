import GuardedQuery.Proofs.Path
import GuardedQuery.Proofs.Store.Hops
import GuardedQuery.Vetting

/-! A path that has been walked against the store's way along it. The walk answers for the columns
of the names that it gets to. A primary key ends it, also where a relation is declared under the
name of the key, and so does the last field name, also where the store goes on to further ones. -/

namespace GuardedQuery

namespace Catalog

/-- How many names of a path a walk gets to. -/
def inspected (c : Catalog) : String → List String → Nat
  | _, [] => 0
  | model, name :: rest =>
    match c.model? model with
    | none => 0
    | some m =>
      if m.isKey name then 1
      else
        match m.target? name with
        | some target => c.inspected target rest + 1
        | none => 1

/-- No primary key is a relation. -/
def PlainKeys (c : Catalog) : Prop :=
  ∀ model m, c.model? model = some m → (m.schema.kind? m.schema.key).bind FieldKind.target? = none

theorem mem_values_of_model? {c : Catalog} {model : String} {m : Model}
    (h : c.model? model = some m) : m ∈ c.models.values := by
  obtain ⟨⟨entries, sorted⟩⟩ := c
  change Entries.get? entries model = some m at h
  change m ∈ entries.map Prod.snd
  clear sorted
  induction entries with
  | nil => cases h
  | cons entry rest ih =>
    obtain ⟨name, first⟩ := entry
    rw [Entries.get?_cons] at h
    split at h
    · cases h
      exact List.mem_cons_self
    · exact List.mem_cons_of_mem _ (ih h)

theorem plainKeys_of_kinds {c : Catalog}
    (kinds : ∀ m ∈ c.models.values,
      (m.schema.kind? m.schema.key).bind FieldKind.target? = none) : c.PlainKeys :=
  fun _ m found => kinds m (mem_values_of_model? found)

end Catalog

theorem Model.kind?_eq_some {m : Model} {name : String} {kind : FieldKind}
    (h : m.kind? name = some kind) : m.schema.kind? name = some kind := by
  rw [kind?] at h
  obtain ⟨field, found, shown⟩ := Option.bind_eq_some_iff.1 h
  split at shown
  · rw [Schema.kind?, found, Option.map_some, shown]
  · cases shown

namespace Access
variable {a : Access} {use : PathUse} {path : String}

/-- The column is a primary key or among the fields that the caller can read. -/
def Open (a : Access) (hop : Hop) : Prop :=
  ∃ m, a.catalog.get hop.model = .ok m ∧
    (hop.column = m.schema.key ∨ hop.column ∈ m.fields a.request .read)

/-- What the walk has found out about the name of a field that is not a primary key. -/
structure Passes (a : Access) (use : PathUse) (path : String) (m : Model) (name : String)
    (rest : List String) (kind : FieldKind) : Prop where
  known : m.kind? name = some kind
  readable : name ∈ m.fields a.request .read
  onward : kind = .json ∨ kind = .scalar ∧ rest = [] ∨
    ∃ target, kind.target? = some target ∧ a.walk use path false target rest = .ok ()

theorem walk_cases {atRoot : Bool} {model name : String} {rest : List String}
    (used : use ≠ .output) (h : a.walk use path atRoot model (name :: rest) = .ok ()) :
    ∃ m, a.catalog.model? model = some m ∧
      (m.isKey name = true ∨
        m.isKey name = false ∧ ∃ kind, a.Passes use path m name rest kind) := by
  rw [walk] at h
  split at h
  · cases h
  obtain ⟨m, found, h⟩ := Checks.bind_ok_iff.1 h
  refine ⟨m, Catalog.get_ok_iff.1 found, ?_⟩
  cases key : m.isKey name with
  | true => exact .inl rfl
  | false =>
    refine .inr ⟨rfl, ?_⟩
    simp only [key, Bool.false_eq_true, if_false] at h
    split at h
    · split at h
      · cases h
      · cases use <;> simp_all [PathUse.computed?]
    · split at h
      · cases h
      · rename_i kind known
        split at h
        · cases h
        rename_i readable
        refine ⟨kind, known, by simpa using readable, ?_⟩
        cases kind with
        | json => exact .inl rfl
        | scalar =>
          cases rest with
          | nil => exact .inr (.inl ⟨rfl, rfl⟩)
          | cons second others => cases h
        | toOne target | toMany target | reverse target via =>
          exact .inr (.inr ⟨target, rfl, h⟩)

/-- Walk and store side by side: the hop is at the name, or it is noted behind a primary key that is
a relation, or both go on to the target of the same relation. -/
theorem walked_hop_cases {s : Store} (same : s.catalog = a.catalog) (used : use ≠ .output)
    {atRoot : Bool} {index : Nat} {model name : String} {row : Row} {names rest : List String}
    (walked : a.walk use path atRoot model (name :: names) = .ok ()) {hop : Hop}
    (noted : hop ∈ (s.notedAlong index model row (name :: rest)).notes) :
    ∃ m, a.catalog.model? model = some m ∧
      (hop = ⟨index, model, m.column name⟩ ∧ a.Open hop ∨
        m.isKey name = true ∧ index < hop.index ∧
          (m.schema.kind? m.schema.key).bind FieldKind.target? ≠ none ∨
        m.isKey name = false ∧ ∃ target other, m.target? name = some target ∧
          a.walk use path false target names = .ok () ∧
          hop ∈ (s.notedAlong (index + 1) target other rest).notes) := by
  obtain ⟨m, found, passed⟩ := walk_cases used walked
  refine ⟨m, found, ?_⟩
  obtain ⟨m', found', here | ⟨kind, target, other, declared, leads, noted⟩⟩ :=
    Store.hop_cases noted
  all_goals
    rw [same, found] at found'
    obtain rfl := Option.some.inj found'
  · subst here
    refine .inl ⟨rfl, m, Catalog.get_ok_iff.2 found, ?_⟩
    rcases passed with key | ⟨notKey, _, passes⟩
    · left
      simp [Model.column, key]
    · right
      simpa [Model.column, notKey] using passes.readable
  · rcases passed with key | ⟨notKey, kind', passes⟩
    · simp only [Model.column, key, if_true] at declared
      exact .inr (.inl ⟨key, Store.index_le_of_mem noted, by simp [declared, leads]⟩)
    · simp only [Model.column, notKey, Bool.false_eq_true, if_false] at declared
      obtain rfl : kind = kind' :=
        Option.some.inj (declared.symm.trans (Model.kind?_eq_some passes.known))
      rcases passes.onward with rfl | ⟨rfl, _⟩ | ⟨target', leads', walked⟩
      · cases leads
      · cases leads
      · obtain rfl : target = target' := Option.some.inj (leads.symm.trans leads')
        refine .inr (.inr ⟨notKey, target, other, ?_, walked, noted⟩)
        rw [Model.target?, passes.known, Option.bind_some, leads]

/-- The columns of the names that a walk gets to are open, whatever the store finds behind them. -/
theorem open_of_walk {s : Store} (same : s.catalog = a.catalog) (used : use ≠ .output)
    {atRoot : Bool} {index : Nat} {model : String} {row : Row} {names more : List String}
    (walked : a.walk use path atRoot model names = .ok ()) {hop : Hop}
    (noted : hop ∈ (s.notedAlong index model row (names ++ more)).notes)
    (inspected : hop.index < index + a.catalog.inspected model names) : a.Open hop := by
  induction names generalizing atRoot index model row with
  | nil => exact absurd (Store.index_le_of_mem noted) (Nat.not_le.2 inspected)
  | cons name rest ih =>
    obtain ⟨m, found, ⟨_, opened⟩ | ⟨key, beyond, _⟩ | ⟨notKey, target, other, leads, walked,
      noted⟩⟩ := walked_hop_cases same used walked noted
    · exact opened
    · simp only [Catalog.inspected, found, key, if_true] at inspected
      omega
    · refine ih walked noted ?_
      simp only [Catalog.inspected, found, notKey, Bool.false_eq_true, if_false, leads] at inspected
      omega

/-- If no primary key is a relation, the walk of a path gets to all its names. -/
theorem inspected_of_plainKeys {s : Store} (same : s.catalog = a.catalog)
    (plain : a.catalog.PlainKeys) (used : use ≠ .output) {atRoot : Bool} {index : Nat}
    {model : String} {row : Row} {names : List String}
    (walked : a.walk use path atRoot model names = .ok ()) {hop : Hop}
    (noted : hop ∈ (s.notedAlong index model row names).notes) :
    hop.index < index + a.catalog.inspected model names := by
  induction names generalizing atRoot index model row with
  | nil => exact absurd noted List.not_mem_nil
  | cons name rest ih =>
    obtain ⟨m, found, ⟨rfl, _⟩ | ⟨_, _, related⟩ | ⟨notKey, target, other, leads, walked, noted⟩⟩ :=
      walked_hop_cases same used walked noted
    · rw [Catalog.inspected, found]
      simp only
      split
      · exact Nat.lt_succ_self index
      · split <;> omega
    · exact absurd (plain model m found) related
    · have := ih walked noted
      simp only [Catalog.inspected, found, notKey, Bool.false_eq_true, if_false, leads]
      omega

/-- The columns that a path is resolved to are open from a number of names on. -/
def OpenFrom (a : Access) (s : Store) (model : String) (row : Row) (names : List String)
    (n : Nat) : Prop :=
  ∀ hop ∈ s.hopsAlong model row names, n ≤ hop.index → a.Open hop

theorem not_openFrom_of_hidden {s : Store} {model : String} {row : Row} {names : List String}
    {hop : Hop} (noted : hop ∈ s.hopsAlong model row names) {m : Model}
    (found : a.catalog.get hop.model = .ok m) (notKey : hop.column ≠ m.schema.key)
    (hidden : hop.column ∉ m.fields a.request .read) : ¬ a.OpenFrom s model row names 0 := by
  intro opened
  obtain ⟨m', found', key | readable⟩ := opened hop noted (Nat.zero_le _)
  all_goals
    obtain rfl : m = m' := Except.ok.inj (found.symm.trans found')
  · exact notKey key
  · exact hidden readable

/-- Of a vetted path the names that the walk got to need no further look. -/
theorem openFrom_zero_iff {s : Store} (same : s.catalog = a.catalog) (used : use ≠ .output)
    {model : String} (vetted : a.vetPath model use path = .ok ()) (row : Row)
    (more : List String) :
    a.OpenFrom s model row (fieldNames path ++ more) 0 ↔
      a.OpenFrom s model row (fieldNames path ++ more)
        (a.catalog.inspected model (fieldNames path)) := by
  constructor
  · intro opened hop noted _
    exact opened hop noted (Nat.zero_le _)
  · intro opened hop noted _
    rcases Nat.lt_or_ge hop.index (a.catalog.inspected model (fieldNames path)) with near | far
    · exact open_of_walk same used vetted noted (by rwa [Nat.zero_add])
    · exact opened hop noted far

theorem openFrom_zero_of_plainKeys {s : Store} (same : s.catalog = a.catalog)
    (used : use ≠ .output) (plain : a.catalog.PlainKeys) {model : String}
    (vetted : a.vetPath model use path = .ok ()) (row : Row) :
    a.OpenFrom s model row (fieldNames path) 0 := by
  have whole := openFrom_zero_iff same used vetted row []
  rw [List.append_nil] at whole
  refine whole.2 fun hop noted far => ?_
  have near := inspected_of_plainKeys same plain used vetted noted
  omega

end Access

/-! What a query has passed when it has been vetted -/

namespace Access

structure Vets (a : Access) (model : String) (q : Query) : Prop where
  output : ∀ path ∈ q.requested, a.vetOutput model path = .ok ()
  filter : ∀ key ∈ q.filter.keys, a.vetFilter model key = .ok ()
  exclude : ∀ key ∈ q.exclude.keys, a.vetFilter model key = .ok ()
  lookup : ∀ key ∈ q.lookup.names, a.vetFilter model key = .ok ()
  order : a.vetOrder model q.order = .ok ()
  single : q.operation.function?.isSome = true →
    ∀ path ∈ q.field, a.vetAggregate model path = .ok ()
  several : ∀ term ∈ q.aggregates, a.vetAggregate model term.field = .ok ()

theorem vets_of_vet {a : Access} {model : String} {q : Query} (h : a.vet model q = .ok ()) :
    a.Vets model q := by
  rw [vet] at h
  obtain ⟨_, output, h⟩ := Checks.bind_ok_iff.1 h
  obtain ⟨_, filter, h⟩ := Checks.bind_ok_iff.1 h
  obtain ⟨_, exclude, h⟩ := Checks.bind_ok_iff.1 h
  obtain ⟨_, lookup, h⟩ := Checks.bind_ok_iff.1 h
  obtain ⟨_, order, h⟩ := Checks.bind_ok_iff.1 h
  have last {run : Except Error Unit} (h : (if q.operation.function?.isSome = true then do
        q.field.toList.forM (a.vetAggregate model)
        run
      else run) = .ok ()) :
      run = .ok () ∧ (q.operation.function?.isSome = true →
        ∀ path ∈ q.field, a.vetAggregate model path = .ok ()) := by
    split at h
    · obtain ⟨_, single, h⟩ := Checks.bind_ok_iff.1 h
      exact ⟨h, fun _ path here => Checks.forM_ok_iff.1 single path (by simpa using here)⟩
    · exact ⟨h, fun one => absurd one ‹_›⟩
  obtain ⟨several, single⟩ := last h
  exact ⟨Checks.forM_ok_iff.1 output, Checks.forM_ok_iff.1 filter, Checks.forM_ok_iff.1 exclude,
    Checks.forM_ok_iff.1 lookup, order, single, Checks.forM_ok_iff.1 several⟩

/-- A query that passes all checks has been vetted. -/
theorem Vets.vet {a : Access} {model : String} {q : Query} (vets : a.Vets model q) :
    a.vet model q = .ok () := by
  have several := Checks.forM_ok_iff.2 vets.several
  refine Checks.bind_ok_iff.2 ⟨(), Checks.forM_ok_iff.2 vets.output, ?_⟩
  refine Checks.bind_ok_iff.2 ⟨(), Checks.forM_ok_iff.2 vets.filter, ?_⟩
  refine Checks.bind_ok_iff.2 ⟨(), Checks.forM_ok_iff.2 vets.exclude, ?_⟩
  refine Checks.bind_ok_iff.2 ⟨(), Checks.forM_ok_iff.2 vets.lookup, ?_⟩
  refine Checks.bind_ok_iff.2 ⟨(), vets.order, ?_⟩
  split
  · refine Checks.bind_ok_iff.2 ⟨(), Checks.forM_ok_iff.2 fun path mem => ?_, several⟩
    exact vets.single ‹_› path (by simpa using mem)
  · exact several

end Access

end GuardedQuery
