import GuardedQuery.Proofs.Presentation.Expansion

/-! Requested paths with lookups that are shared. The neighbourhood of the root is looked up first,
and each path looks up further models on its way. What is known of a model are its permitted fields
at any time, so the outline is the one that looks up every model afresh. -/

namespace GuardedQuery

namespace Access
variable {a : Access} {use : FieldUse}

/-! What has been looked up -/

/-- Looks up the permitted fields of a model, unless they are known. -/
def consult (a : Access) (use : FieldUse) (model : String) (known : Outline) :
    Except Error Outline :=
  if known.contains model then .ok known
  else do
    let names ← a.fields model use
    return if names.isEmpty then known else known.extend model names

/-- What is known of a model are its permitted fields, of which there are some. -/
def Knows (a : Access) (use : FieldUse) (known : Outline) : Prop :=
  ∀ model names, known.get? model = some names →
    names.isEmpty = false ∧ names = a.fieldsOf use model

/-- What there is to know of a model. -/
def fields? (a : Access) (use : FieldUse) (model : String) : Option NameSet :=
  if (a.fieldsOf use model).isEmpty then none else some (a.fieldsOf use model)

theorem knows_expand (root : String) (depth : Nat) :
    a.Knows use (a.expand use depth [⟨root, 0⟩] [] .empty) :=
  fun model names found => ((get?_expand use depth root model names).1 found).2

theorem Knows.get? {known : Outline} {model : String} (h : a.Knows use known)
    (there : known.contains model = true) : known.get? model = a.fields? use model := by
  obtain ⟨names, found⟩ := Option.isSome_iff_exists.1 there
  obtain ⟨some, same⟩ := h model names found
  rw [found, fields?, ← same, if_neg (by simp [some])]

theorem Knows.extend {known : Outline} {model : String} (h : a.Knows use known)
    (absent : known.get? model = none) (some : (a.fieldsOf use model).isEmpty = false) :
    a.Knows use (known.extend model (a.fieldsOf use model)) ∧
      (known.extend model (a.fieldsOf use model)).get? model = a.fieldsOf use model := by
  have own : (known.extend model (a.fieldsOf use model)).get? model = a.fieldsOf use model := by
    rw [Outline.extend, Dict.get?_insert_self, absent]
    exact congrArg Option.some (NameSet.ext_mem (by simp))
  refine ⟨fun other names found => ?_, own⟩
  by_cases same : model = other
  · subst same
    cases own.symm.trans found
    exact ⟨some, rfl⟩
  · rw [Outline.extend, Dict.get?_insert_of_ne known same] at found
    exact h other names found

/-- Afterwards there is known of the model what there is to know. -/
theorem consult_known {known : Outline} {model : String} {m : Model} (h : a.Knows use known)
    (found : a.catalog.model? model = some m) :
    ∃ known', a.consult use model known = .ok known' ∧ a.Knows use known' ∧
      known'.get? model = a.fields? use model := by
  rw [consult]
  cases there : known.contains model with
  | true => exact ⟨known, rfl, h, h.get? there⟩
  | false =>
    have absent : known.get? model = none := by simpa [Dict.contains] using there
    have own : a.fields model use = .ok (a.fieldsOf use model) := by
      rw [fields, fieldsOf, Catalog.get_ok_iff.2 found, found]
      rfl
    rw [own, fields?]
    cases void : (a.fieldsOf use model).isEmpty with
    | true => exact ⟨known, by simp [bind, Except.bind, pure, Except.pure, void], h, absent⟩
    | false =>
      obtain ⟨knows, own⟩ := h.extend absent void
      exact ⟨_, by simp [bind, Except.bind, pure, Except.pure, void], knows, own⟩

/-- A model that is not in the catalog is not known and cannot be looked up. -/
theorem consult_unknown {known : Outline} {model : String} (h : a.Knows use known)
    (lost : a.catalog.model? model = none) :
    a.consult use model known = .error (.unknownModel model) := by
  have absent : known.contains model = false := by
    refine Bool.eq_false_iff.2 fun there => ?_
    obtain ⟨names, found⟩ := Option.isSome_iff_exists.1 there
    obtain ⟨some, rfl⟩ := h model names found
    rw [fieldsOf, lost] at some
    cases some
  rw [consult, absent, fields, Catalog.get, lost]
  rfl

theorem has_of_get? {known : Outline} {model segment : String}
    (found : known.get? model = a.fields? use model) :
    known.has model segment = (a.fieldsOf use model).contains segment := by
  rw [Bool.eq_iff_iff, Outline.has_iff, found, fields?, NameSet.contains_iff]
  split
  · rename_i void
    have none (name : String) : name ∉ a.fieldsOf use model :=
      fun mem => absurd void (by simp [isEmpty_eq_false_of_mem mem])
    simp [none]
  · rfl

/-! One path -/

/-- What is known of models, and what has been recorded. -/
structure Findings where
  known : Outline
  recorded : Outline

/-- Records the fields along the segments of one path, looking models up on the way. -/
def trace (a : Access) (use : FieldUse) :
    String → List String → Findings → Except Error Findings
  | _, [], f => .ok f
  | model, segment :: rest, f => do
    let known ← a.consult use model f.known
    let permitted := known.has model segment
    let o := if permitted then f.recorded.extend model (.ofList [segment]) else f.recorded
    let m ← a.catalog.get model
    match rest with
    | [] =>
      match m.target? segment with
      | some target =>
        if permitted then do
          let known ← a.consult use target known
          return ⟨known, (known.get? target).elim o (o.extend target)⟩
        else return ⟨known, o⟩
      | none => return ⟨known, o⟩
    | _ =>
      if !permitted then
        if a.rejectsUnknown && segment != keyAlias then
          throw (PathFault.notPermitted segment model).toError
        else return ⟨known, o⟩
      else
        match m.kind? segment with
        | some .json => return ⟨known, o⟩
        | some (.toOne target) | some (.toMany target) | some (.reverse target _) =>
          a.trace use target rest ⟨known, o⟩
        | _ =>
          if a.rejectsUnknown && (m.computed? segment).isNone then
            throw (PathFault.noRelation segment model).toError
          else return ⟨known, o⟩

/-- The same is recorded, and nothing wrong is known afterwards. -/
def Retraces (a : Access) (use : FieldUse) (traced : Except Error Findings)
    (followed : Except Error Outline) : Prop :=
  traced.map Findings.recorded = followed ∧ ∀ f, traced = .ok f → a.Knows use f.known

theorem elim_fields? {o : Outline} {target : String} :
    (a.fields? use target).elim o (o.extend target) = a.recordTarget use o target := by
  rw [fields?, recordTarget]
  split <;> rfl

theorem retraces_trace (closed : a.catalog.Closed) (model : String) (segments : List String)
    {f : Findings} (h : a.Knows use f.known) :
    a.Retraces use (a.trace use model segments f) (a.follow use model segments f.recorded) := by
  have stop {known o : Outline} (knows : a.Knows use known) :
      a.Retraces use (.ok ⟨known, o⟩) (.ok o) := by
    refine ⟨rfl, ?_⟩
    rintro _ ⟨⟩
    exact knows
  have refuse (e : Error) : a.Retraces use (.error e) (.error e) := ⟨rfl, nofun⟩
  have fork (c : Bool) (e : Error) {known o : Outline} (knows : a.Knows use known) :
      a.Retraces use (if c then .error e else .ok ⟨known, o⟩) (if c then .error e else .ok o) := by
    cases c with
    | true => exact refuse e
    | false => exact stop knows
  induction segments generalizing model f with
  | nil => exact stop h
  | cons segment rest ih =>
    rw [trace, follow]
    cases found : a.catalog.model? model with
    | none =>
      rw [consult_unknown h found, Catalog.get, found]
      exact refuse _
    | some m =>
      obtain ⟨known, consulted, knows, here⟩ := consult_known h found
      have got := Catalog.get_ok_iff.2 found
      rw [consulted, got]
      simp only [bind, Except.bind, has_of_get? here, fieldsOf_eq got]
      cases rest with
      | nil =>
        cases leads : m.target? segment with
        | none => exact stop knows
        | some target =>
          simp only
          split
          · obtain ⟨t, targetFound⟩ := closed.found found leads
            obtain ⟨known', consulted', knows', there⟩ := consult_known knows targetFound
            simp only [consulted', there, elim_fields?]
            exact stop knows'
          · exact stop knows
      | cons next others =>
        simp only
        split
        · exact fork _ _ knows
        · rcases m.kind? segment with _ | (_ | _ | target | target | ⟨target, via⟩)
          · exact fork _ _ knows
          · exact fork _ _ knows
          · exact stop knows
          · exact ih target (f := ⟨known, _⟩) knows
          · exact ih target (f := ⟨known, _⟩) knows
          · exact ih target (f := ⟨known, _⟩) knows

/-! Several paths -/

/-- The outline of a root by lookups that are shared: its neighbourhood is looked up first, and
requested paths then replace it. -/
def survey (a : Access) (root : String) (use : FieldUse) (depth : Nat) (paths : List String) :
    Except Error Outline := do
  let _ ← a.catalog.get root
  let known := a.expand use (min depth a.rules.maxDepth) [⟨root, 0⟩] [] .empty
  if paths.isEmpty then return known
  else
    let f ← paths.foldlM (fun f path => a.trace use root (Path.segments path) f)
      ⟨known, Dict.empty.insert root .empty⟩
    return f.recorded

theorem retraces_foldlM (closed : a.catalog.Closed) (root : String) (paths : List String)
    {f : Findings} (h : a.Knows use f.known) :
    a.Retraces use (paths.foldlM (fun f path => a.trace use root (Path.segments path) f) f)
      (paths.foldlM (fun o path => a.follow use root (Path.segments path) o) f.recorded) := by
  induction paths generalizing f with
  | nil => exact ⟨rfl, fun _ same => by cases same; exact h⟩
  | cons path rest ih =>
    obtain ⟨same, knows⟩ := retraces_trace closed root (Path.segments path) h
    rw [List.foldlM_cons, List.foldlM_cons, ← same]
    cases traced : a.trace use root (Path.segments path) f with
    | error e => exact ⟨rfl, nofun⟩
    | ok next => exact ih (knows next traced)

/-- What is looked up along the way does not show. -/
theorem survey_eq_outline (closed : a.catalog.Closed) (root : String) (use : FieldUse)
    (depth : Nat) (paths : List String) :
    a.survey root use depth paths = a.outline root use depth paths := by
  cases found : a.catalog.model? root with
  | none =>
    rw [survey, outline, Catalog.get, found]
    rfl
  | some m =>
    by_cases void : paths = []
    · rw [void, outline_eq_expand found, survey, Catalog.get_ok_iff.2 found]
      rfl
    · rw [survey, outline, Catalog.get_ok_iff.2 found]
      simp only [bind, Except.bind, List.isEmpty_eq_false_iff.2 void, Bool.false_eq_true, if_false]
      exact (retraces_foldlM closed root paths (f := ⟨_, _⟩) (knows_expand root _)).1

end Access

end GuardedQuery
