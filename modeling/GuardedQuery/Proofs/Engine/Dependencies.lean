import GuardedQuery.Proofs.Scope.Composition
import GuardedQuery.Proofs.Script.Runs
import GuardedQuery.Proofs.Store.Dependencies

/-! What the answers of inquiries depend on. An inquiry is about the rows of a selection as an
outline shows them, or about an aggregate of them, whoever asks. The models that it is linked under
are all that its answer depends on, as long as no relation has a name that reads like a path: the
relations that are shown are followed by their names, and the models behind them are listed by
their paths. -/

namespace GuardedQuery

/-- No relation has a name that is cut when it is read as a path. -/
def Catalog.PlainRelations (c : Catalog) : Prop :=
  ∀ model m field, c.model? model = some m →
    ((m.schema.kind? field).bind FieldKind.target?).isSome → Path.segments field = [field]

namespace Store
variable {s s' : Store} {models : NameSet} {c : Catalog}

/-- A read of rows of the given models only. -/
def Call.LooksAt (c : Catalog) (models : NameSet) : Call → Prop
  | .select sel | .count sel => Looks c models sel
  | .aggregate sel _ field => Looks c models sel ∧ c.Covers models sel.model (Path.segments field)
  | .related model _ field => ∀ m target, c.get model = .ok m →
      (m.schema.kind? field).bind FieldKind.target? = some target → target ∈ models
  | .insert .. | .insertMany .. | .updateRow .. | .updateWhere .. | .deleteWhere .. => False

theorem Call.LooksAt.reads {call : Call} (h : call.LooksAt c models) : call.isWrite = false := by
  cases call with
  | select | count | aggregate | related => rfl
  | insert | insertMany | updateRow | updateWhere | deleteWhere => exact h.elim

theorem Agree.answer (agree : s.Agree models s') (same : s.catalog = c) (keys : c.PlainKeys)
    {call : Call} (looks : call.LooksAt c models) : (s'.answer call).1 = (s.answer call).1 := by
  have direct (sel : Selection) : sel.Direct c :=
    ⟨fun _ _ => keys.direct _ _, fun _ _ => keys.direct _ _⟩
  cases call with
  | select sel => simp only [Store.answer, ask, agree.select same looks (direct sel)]
  | count sel => simp only [Store.answer, ask, count, agree.select same looks (direct sel)]
  | aggregate sel function field =>
    simp only [Store.answer, agree.aggregate same looks.1 (direct sel) function looks.2
      (keys.direct _ _)]
  | related model row field =>
    subst same
    simp only [Store.answer, ask, agree.related looks row]
  | insert | insertMany | updateRow | updateWhere | deleteWhere => exact looks.elim

/-- A script that looks at the given models comes to the same on stores that agree on them. -/
theorem Agree.run (agree : s.Agree models s') (same : s.catalog = c) (keys : c.PlainKeys)
    {α : Type} {script : Script α} (looks : script.Asks (Call.LooksAt c models)) :
    (script.run s').1 = (script.run s).1 :=
  Script.run_congr (looks.mono fun _ here => ⟨here.reads, agree.answer same keys here⟩)

end Store

namespace Catalog
variable {c : Catalog} {sel : Selection} {o : Outline} {paths : List String} {models : NameSet}

/-- What the listed dependencies cover. -/
structure Depends (c : Catalog) (sel : Selection) (o : Outline) (paths : List String)
    (models : NameSet) : Prop where
  looks : Store.Looks c models sel
  paths : ∀ path ∈ paths, c.Covers models sel.model (Path.segments path)
  shown : ∀ model field, o.has model field = true → c.Covers models model (Path.segments field)

theorem depends_of_dependencies (listed : c.dependencies sel o paths = .ok models) :
    c.Depends sel o paths models := by
  unfold dependencies at listed
  obtain ⟨shown, outlined, listed⟩ := Checks.bind_ok_iff.1 listed
  obtain ⟨walked, along, listed⟩ := Checks.bind_ok_iff.1 listed
  have mem (name : String) : name ∈ models ↔
      name = sel.model ∨ name ∈ shown.flatten ∨ name ∈ walked.flatten := by
    rw [← Checks.pure_ok_iff.1 listed, NameSet.mem_ofList, List.mem_cons, List.mem_append]
  have covers {path : String} (among : path ∈ sel.predicate.conditions.map (·.path) ++
      sel.order.map (·.path) ++ paths) : c.Covers models sel.model (Path.segments path) := by
    obtain ⟨found, inside, here⟩ := Checks.exists_ok_of_mapM_ok along among
    refine ⟨found, here, fun name named => (mem name).2 (.inr (.inr ?_))⟩
    exact List.mem_flatten.2 ⟨found, inside, named⟩
  refine ⟨⟨(mem _).2 (.inl rfl), fun condition among => covers ?_, fun term among => covers ?_⟩,
    fun path among => covers ?_, fun model field listed => ?_⟩
  · exact List.mem_append_left _ (List.mem_append_left _ (List.mem_map_of_mem among))
  · exact List.mem_append_left _ (List.mem_append_right _ (List.mem_map_of_mem among))
  · exact List.mem_append_right _ among
  · unfold Outline.has at listed
    split at listed
    case h_2 => cases listed
    case h_1 names recorded =>
      obtain ⟨all, inside, here⟩ :=
        Checks.exists_ok_of_mapM_ok outlined (Entries.mem_of_get? recorded)
      obtain ⟨lists, followed, here⟩ := Checks.bind_ok_iff.1 here
      obtain ⟨found, among, along⟩ := Checks.exists_ok_of_mapM_ok followed
        (NameSet.mem_def.1 (NameSet.contains_iff.1 listed))
      refine ⟨found, along, fun name named => (mem name).2 (.inr (.inl ?_))⟩
      rw [← Checks.pure_ok_iff.1 here] at inside
      exact List.mem_flatten.2 ⟨_, inside, List.mem_cons_of_mem _
        (List.mem_flatten.2 ⟨found, among, named⟩)⟩

/-- A relation that is shown leads to a listed model, if its name is read whole. -/
theorem Depends.target (depends : c.Depends sel o paths models) {model field target : String}
    {m : Model} (shown : o.has model field = true) (whole : Path.segments field = [field])
    (found : c.get model = .ok m)
    (leads : (m.schema.kind? field).bind FieldKind.target? = some target) : target ∈ models := by
  have covers := depends.shown model field shown
  rw [whole] at covers
  obtain ⟨m', known, further⟩ := covers.step
  obtain rfl := Except.ok.inj (found.symm.trans known)
  exact (further target leads).1

/-- Where no relation reads like a path, relations that are shown lead to listed models. -/
theorem Depends.related (depends : c.Depends sel o paths models) (plain : c.PlainRelations)
    {model field : String} (shown : o.has model field = true) (row : Row) :
    Store.Call.LooksAt c models (.related model row field) := by
  intro m target found leads
  have whole := plain model m field (Catalog.get_ok_iff.1 found) (by rw [leads]; rfl)
  exact depends.target shown whole found leads

end Catalog

namespace Engine

/-- What an inquiry is about. -/
inductive Subject where
  /-- The rows of a selection, as an outline shows them down to a depth. -/
  | rows (sel : Selection) (outline : Outline) (depth : Nat)
  /-- An aggregate of a field over the rows of a selection. -/
  | total (sel : Selection) (function : Aggregate) (field : String)

namespace Subject
variable {c : Catalog} {subject : Subject} {models : NameSet} {s s' : Store}

/-- How a subject is computed, whoever asks. -/
def script (c : Catalog) : Subject → Script Value
  | rows sel outline depth => do
    (⟨c, .anonymous, .default⟩ : Access).presentAll outline depth sel.model (← Script.select sel)
  | total sel function field => Script.aggregate sel function field

/-- The models that an answer about the subject is linked under. -/
def dependencies (c : Catalog) : Subject → Except Error NameSet
  | rows sel outline _ => c.dependencies sel outline []
  | total sel _ field => c.dependencies sel .empty [field]

theorem looks (plain : c.PlainRelations) (listed : subject.dependencies c = .ok models) :
    (subject.script c).Asks (Store.Call.LooksAt c models) := by
  cases subject with
  | rows sel outline depth =>
    have depends := Catalog.depends_of_dependencies listed
    refine Script.asks_bind (Script.asks_request depends.looks) fun rows => ?_
    exact Access.asks_presentAll_of_has (fun model row field shown =>
      depends.related plain shown row) depth sel.model rows
  | total sel function field =>
    have depends := Catalog.depends_of_dependencies listed
    exact Script.asks_request ⟨depends.looks, depends.paths field List.mem_cons_self⟩

/-- A subject comes to the same on stores that agree on the models that it is linked under. -/
theorem run_eq (keys : c.PlainKeys) (plain : c.PlainRelations)
    (listed : subject.dependencies c = .ok models) (same : s.catalog = c)
    (agree : s.Agree models s') :
    ((subject.script c).run s').1 = ((subject.script c).run s).1 :=
  agree.run same keys (looks plain listed)

end Subject

/-- The inquiries that a plan comes to make when it is run, each with its subject. -/
inductive Asks (e : Engine) (p : Plan) : Inquiry → Subject → Prop where
  | list {page : Selection} {inquiry : Inquiry} (op : p.query.operation = .read)
      (cut : p.page e.defaultLimit = .ok page)
      (made : p.listInquiry e.defaultLimit = .ok inquiry) :
      Asks e p inquiry (.rows page p.outline p.depth)
  | single {function : Aggregate} {field : String} {inquiry : Inquiry}
      (op : p.query.operation = .single function) (given : p.query.field = some field)
      (made : p.aggregateInquiry function field = .ok inquiry) :
      Asks e p inquiry (.total p.selection.whole function field)
  | term {term : AggregateTerm} {inquiry : Inquiry} (op : p.query.operation = .aggregate)
      (mem : term ∈ p.query.aggregates)
      (made : p.aggregateInquiry term.function term.field = .ok inquiry) :
      Asks e p inquiry (.total p.selection.whole term.function term.field)

/-- An inquiry is computed as its subject is, and linked under the models of its subject. -/
structure About (c : Catalog) (inquiry : Inquiry) (subject : Subject) : Prop where
  script : inquiry.script = subject.script c
  models : subject.dependencies c = .ok inquiry.job.models

variable {e : Engine} {p : Plan} {inquiry : Inquiry} {subject : Subject}

theorem models_of_inquiry {sel : Selection} {context : String} {o : Outline} {paths : List String}
    {script : Script Value} (made : p.inquiry sel context o paths script = .ok inquiry) :
    p.access.catalog.dependencies sel o paths = .ok inquiry.job.models ∧
      inquiry.job.transaction = p.request.transaction.getD "" := by
  obtain ⟨models, listed, made⟩ := Checks.bind_ok_iff.1 made
  rw [← Checks.pure_ok_iff.1 made]
  exact ⟨listed, rfl⟩

theorem Asks.transaction (asks : e.Asks p inquiry subject) :
    inquiry.job.transaction = p.request.transaction.getD "" := by
  cases asks with
  | list _ _ made =>
    obtain ⟨page, _, made⟩ := Checks.bind_ok_iff.1 made
    exact (models_of_inquiry made).2
  | single _ _ made => exact (models_of_inquiry made).2
  | term _ _ made => exact (models_of_inquiry made).2

theorem Asks.about {model : String} {q : Query} {request : Request}
    (planned : (e.accessOf request).plan model q = .ok p) (asks : e.Asks p inquiry subject) :
    About e.catalog inquiry subject := by
  have plans := Access.plans_of_plan planned
  have catalog : p.access.catalog = e.catalog := congrArg Access.catalog plans.accessed
  cases asks with
  | @list page _ _ cut made =>
    obtain ⟨page', cut', made⟩ := Checks.bind_ok_iff.1 made
    obtain rfl := Except.ok.inj (cut.symm.trans cut')
    refine ⟨?_, catalog ▸ (models_of_inquiry made).1⟩
    rw [p.inquiry_script made, Plan.showSelected, Subject.script]
    congr 1
    funext rows
    have about : page.model = p.name := (Selection.arranges_window cut).1.trans plans.about
    rw [Plan.presentAll, Access.presentAll, Access.presentAll, about,
      Access.present_congr (b := ⟨e.catalog, .anonymous, .default⟩) catalog]
  | single _ _ made => exact ⟨p.inquiry_script made, catalog ▸ (models_of_inquiry made).1⟩
  | term _ _ made => exact ⟨p.inquiry_script made, catalog ▸ (models_of_inquiry made).1⟩

/-- An inquiry reads only. -/
theorem About.reads {c : Catalog} (about : About c inquiry subject) :
    inquiry.script.Asks fun call => call.isWrite = false := by
  rw [about.script]
  cases subject with
  | rows sel outline depth =>
    refine Script.asks_bind (Script.asks_request rfl) fun rows => ?_
    exact Access.asks_presentAll (fun _ _ _ => rfl) depth sel.model rows
  | total sel function field => exact Script.asks_request rfl

end Engine

end GuardedQuery
