import GuardedQuery.Proofs.Checks
import GuardedQuery.Vetting

/-! Walking a path name by name. What a walk makes of a name depends on the model that it stands at
and on the fields that can be read there: the walk is refused, ends, or goes on at another model. -/

namespace GuardedQuery

/-- What a walk makes of a name; with a model in the result it goes on there. -/
def PathUse.inspect (use : PathUse) (path model : String) (atRoot : Bool) (m : Model)
    (allowed : NameSet) (name : String) (last : Bool) : Except Error (Option String) :=
  if m.isKey name then
    if !atRoot && allowed.isEmpty then .error (use.denied path) else .ok none
  else if (m.computed? name).isSome then
    match use.computed? name with
    | some refusal => .error refusal
    | none =>
      if !allowed.contains name then .error (use.denied path)
      else if last then .ok none
      else .error (use.missing path model)
  else
    match m.kind? name with
    | none => .error (use.missing path model)
    | some kind =>
      if !allowed.contains name then .error (use.denied path)
      else
        match kind with
        | .json => .ok none
        | .scalar => if last then .ok none else .error (use.missing path model)
        | .toOne target | .toMany target | .reverse target _ => .ok (some target)

/-- What a path can be refused with. -/
def Error.IsRefusal : Error → Prop
  | .validation _ | .permissionDenied _ => True
  | _ => False

namespace PathUse
variable {use : PathUse} {path model name : String} {atRoot last : Bool} {m : Model}
  {allowed : NameSet}

theorem isRefusal_missing : (use.missing path model).IsRefusal := by
  cases use <;> trivial

theorem isRefusal_computed {refusal : Error} (h : use.computed? name = some refusal) :
    refusal.IsRefusal := by
  cases use <;> cases h <;> trivial

/-- A name is refused, or it ends the walk, or it is a visible relation and the walk goes on at its
target. -/
theorem inspect_cases (use : PathUse) (path model : String) (atRoot : Bool) (m : Model)
    (allowed : NameSet) (name : String) (last : Bool) :
    (∃ e, use.inspect path model atRoot m allowed name last = .error e ∧ e.IsRefusal) ∨
    use.inspect path model atRoot m allowed name last = .ok none ∨
    ∃ target, use.inspect path model atRoot m allowed name last = .ok (some target) ∧
      m.target? name = some target := by
  unfold inspect
  split
  · split
    · exact .inl ⟨_, rfl, trivial⟩
    · exact .inr (.inl rfl)
  split
  · split
    · rename_i refusal refused
      exact .inl ⟨refusal, rfl, isRefusal_computed refused⟩
    · split
      · exact .inl ⟨_, rfl, trivial⟩
      · split
        · exact .inr (.inl rfl)
        · exact .inl ⟨_, rfl, isRefusal_missing⟩
  · split
    · exact .inl ⟨_, rfl, isRefusal_missing⟩
    · rename_i kind known
      rw [Model.target?, known, Option.bind_some]
      split
      · exact .inl ⟨_, rfl, trivial⟩
      · cases kind with
        | json => exact .inr (.inl rfl)
        | scalar =>
          cases last with
          | true => exact .inr (.inl rfl)
          | false => exact .inl ⟨_, rfl, isRefusal_missing⟩
        | toOne target | toMany target | reverse target via =>
          exact .inr (.inr ⟨target, rfl, rfl⟩)

end PathUse

namespace Access

theorem walk_cons (a : Access) (use : PathUse) (path : String) (atRoot : Bool)
    (model name : String) (rest : List String) :
    a.walk use path atRoot model (name :: rest) =
      if name.isEmpty then .error (use.missing path model)
      else do
        let m ← a.catalog.get model
        match ← use.inspect path model atRoot m (m.fields a.request .read) name rest.isEmpty with
        | some target => a.walk use path false target rest
        | none => return () := by
  rw [walk]
  refine if_congr Iff.rfl rfl (congrArg _ (funext fun m => ?_))
  unfold PathUse.inspect
  cases m.isKey name with
  | true =>
    simp only [if_true]
    split <;> rfl
  | false =>
    simp only [Bool.false_eq_true, if_false]
    cases (m.computed? name).isSome with
    | true =>
      simp only [if_true]
      cases use.computed? name with
      | some refusal => rfl
      | none =>
        simp only
        split
        · rfl
        · cases rest.isEmpty <;> rfl
    | false =>
      simp only [Bool.false_eq_true, if_false]
      cases m.kind? name with
      | none => rfl
      | some kind =>
        simp only
        split
        · rfl
        · cases kind with
          | scalar => cases rest.isEmpty <;> rfl
          | json | toOne target | toMany target | reverse target via => rfl

end Access

end GuardedQuery
