import GuardedQuery.Proofs.Catalog
import GuardedQuery.Proofs.Store.Hops
import GuardedQuery.Proofs.Store.Indexed

/-! Paths that always lead somewhere. A path can only fail at a relation to a model that does not
exist, and a closed catalog has none of these. Conditions can still fail, but sorting cannot. -/

namespace GuardedQuery

namespace Store
variable {s : Store} {model : String} {m : Model}

theorem exists_relatedRows (closed : s.catalog.Closed) (known : s.model model = .ok m)
    {field target : String} {kind : FieldKind} (declared : m.schema.kind? field = some kind)
    (leads : kind.target? = some target) (row : Row) :
    ∃ rows, s.relatedRows m row field = .ok rows := by
  rw [relatedRows, declared]
  cases kind with
  | scalar | json => cases leads
  | toOne | toMany => exact ⟨_, rfl⟩
  | reverse other via =>
    cases row.get? m.schema.key with
    | none => exact ⟨_, rfl⟩
    | some key =>
      cases leads
      obtain ⟨t, found⟩ := closed model m (model_ok_iff.1 known) field target
        (by rw [declared, Option.bind_some, FieldKind.target?])
      simp only [rows, model_ok_iff.2 found]
      exact ⟨_, rfl⟩

/-- By induction on the path, whose rest is followed from rows of models of the catalog only. -/
theorem exists_valuesAlong (closed : s.catalog.Closed) (known : s.model model = .ok m) (row : Row)
    (segments : List String) : ∃ values, s.valuesAlong model row segments = .ok values := by
  induction segments generalizing model m row with
  | nil => exact ⟨_, rfl⟩
  | cons first rest ih =>
    have target {kind : FieldKind} {name : String}
        (declared : m.schema.kind? (m.column first) = some kind)
        (leads : kind.target? = some name) :
        ∃ t, s.model name = .ok t := by
      obtain ⟨t, found⟩ := closed model m (model_ok_iff.1 known) (m.column first) name
        (by rw [declared, Option.bind_some, leads])
      exact ⟨t, model_ok_iff.2 found⟩
    -- the rest of a path behind a relation
    have further {kind : FieldKind} {name : String}
        (declared : m.schema.kind? (m.column first) = some kind)
        (leads : kind.target? = some name) :
        ∃ rows found, s.relatedRows m row (m.column first) = .ok rows ∧
          (rows.mapM fun other => s.valuesAlong name other rest) = .ok found := by
      obtain ⟨rows, related⟩ := exists_relatedRows closed known declared leads row
      obtain ⟨t, there⟩ := target declared leads
      obtain ⟨found, all⟩ := Checks.exists_mapM_ok fun other _ => ih there other
      exact ⟨rows, found, related, all⟩
    have refold : (if m.isKey first = true then m.schema.key else first) = m.column first := rfl
    simp only [valuesAlong, known, bind, Except.bind, refold]
    cases declared : m.schema.kind? (m.column first) with
    | none => cases rest <;> exact ⟨_, rfl⟩
    | some kind =>
      cases kind with
      | scalar | json => cases rest <;> exact ⟨_, rfl⟩
      | toOne name | toMany name =>
        cases rest with
        | nil => exact ⟨_, rfl⟩
        | cons second others =>
          obtain ⟨rows, found, related, all⟩ := further declared rfl
          simp only [related, all]
          exact ⟨_, rfl⟩
      | reverse name via =>
        cases rest with
        | nil =>
          obtain ⟨t, there⟩ := target declared rfl
          obtain ⟨rows, related⟩ := exists_relatedRows closed known declared rfl row
          simp only [there, related]
          exact ⟨_, rfl⟩
        | cons second others =>
          obtain ⟨rows, found, related, all⟩ := further declared rfl
          simp only [related, all]
          exact ⟨_, rfl⟩

theorem exists_sorted (closed : s.catalog.Closed) (known : s.model model = .ok m)
    (order : List OrderTerm) (rows : List Row) :
    ∃ sorted, s.sorted model order rows = .ok sorted := by
  have keys (row : Row) : ∃ keys, s.sortKeys model order row = .ok keys := by
    refine Checks.exists_mapM_ok fun term _ => ?_
    obtain ⟨values, found⟩ := exists_valuesAlong closed known row (Path.segments term.path)
    exact ⟨values.headD .null, by rw [found]; rfl⟩
  have keyed (row : Row) : ∃ entry, (do return (← s.sortKeys model order row, row)) =
      (.ok entry : Except Error (List Value × Row)) := by
    obtain ⟨found, made⟩ := keys row
    exact ⟨(found, row), by rw [made]; rfl⟩
  obtain ⟨all, made⟩ := Checks.exists_mapM_ok fun row (_ : row ∈ rows) => keyed row
  rw [Store.sorted, made]
  exact ⟨_, rfl⟩

end Store

end GuardedQuery
