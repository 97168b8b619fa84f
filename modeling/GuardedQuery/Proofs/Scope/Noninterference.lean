import GuardedQuery.Proofs.Engine.Transparency
import GuardedQuery.Proofs.Scope.Confinement
import GuardedQuery.Proofs.Store.Dependencies

/-! Rows out of scope do not show. The terms of the scope come first in the selection of a query, so
a row out of scope is turned down before any term of the caller is evaluated on it. It has no part in
results, windows, aggregates or failures. -/

namespace GuardedQuery

namespace Store
variable {s : Store} {model : String} {row : Row} {p : Predicate} {sel : Selection}

/-- What narrows a selection is evaluated after what it has been narrowed by before, if at all. -/
theorem holds_narrow (s : Store) (model : String) (row : Row) (sel : Selection) (p : Predicate) :
    s.holds model row (sel.narrow p).predicate = .ok false ∨
      s.holds model row (sel.narrow p).predicate = (do
        if ← s.holds model row sel.predicate then s.holds model row p else return false) := by
  unfold Selection.narrow
  by_cases void : .nothing ∈ [sel.predicate, p]
  · left
    rw [allOf_of_mem void, holds]
  · right
    rw [holds_allOf void, holdAll, holdAll_singleton]

theorem rejects_narrow (rejected : s.Rejects model row sel.predicate) :
    s.Rejects model row (sel.narrow p).predicate := by
  rcases holds_narrow s model row sel p with void | held
  · exact void
  · rw [Rejects, held, rejected]
    rfl

theorem Evaluates.narrow (first : s.Evaluates model row sel.predicate)
    (second : s.Evaluates model row p) : s.Evaluates model row (sel.narrow p).predicate := by
  obtain ⟨a, held⟩ := first
  obtain ⟨b, held'⟩ := second
  rcases holds_narrow s model row sel p with void | narrowed
  · exact ⟨false, void⟩
  · rw [held, held'] at narrowed
    cases a with
    | true => exact ⟨b, narrowed⟩
    | false => exact ⟨false, narrowed⟩

end Store

namespace Model
variable {m : Model} {request : Request} {s : Store} {model : String} {row : Row}

/-- Whether the guards admit or hide a row can be told. -/
def Evaluates (m : Model) (request : Request) (s : Store) (model : String) (row : Row) : Prop :=
  ∀ g ∈ m.guards, s.Evaluates model row (g.admitted request) ∧
    s.Evaluates model row (g.hidden request)

theorem evaluates_hiding {guards : List Guard}
    (hidden : ∀ g ∈ guards, s.Evaluates model row (g.hidden request)) {sel : Selection}
    (first : s.Evaluates model row sel.predicate) :
    s.Evaluates model row
      (guards.foldl (fun sel g => sel.without (g.hidden request)) sel).predicate := by
  induction guards generalizing sel with
  | nil => exact first
  | cons g rest ih =>
    obtain ⟨here, others⟩ := List.forall_mem_cons.1 hidden
    exact ih others (first.narrow here.negate)

theorem evaluates_scope (guarded : m.guards ≠ [])
    (evaluates : m.Evaluates request s model row) :
    s.Evaluates model row (m.scope request (.ofModel model)).predicate := by
  rw [scope, if_neg (by simpa using guarded)]
  refine evaluates_hiding (fun g mem => (evaluates g mem).2) ?_
  refine Store.Evaluates.narrow ⟨true, Store.accepts_all⟩ (Store.evaluates_anyOf ?_)
  exact List.forall_mem_map.2 fun g mem => (evaluates g mem).1

end Model

namespace Access
variable {a : Access} {m : Model} {model : String} {q : Query} {sel : Selection} {s s' : Store}
  {row : Row}

open Classical in
/-- The rows of a model that the caller may touch, in the order of the table. -/
noncomputable def scopeRows (a : Access) (m : Model) (s : Store) (model : String) : List Row :=
  (s.table model).values.filter fun row => decide (a.InScope m s model row)

/-- A row that the scope turns down is turned down whatever the query asks for. -/
theorem rejects_of_not_inScope (found : a.catalog.get model = .ok m) (guarded : m.guards ≠ [])
    (selected : a.selection model q = .ok sel) (evaluates : m.Evaluates a.request s model row)
    (outside : ¬ a.InScope m s model row) : s.Rejects model row sel.predicate := by
  have scope : s.Rejects model row (m.scope a.request (.ofModel model)).predicate := by
    refine (Model.evaluates_scope guarded evaluates).rejects fun accepted => outside ?_
    obtain ⟨_, admitted, notHidden⟩ := (Model.accepts_scope_iff guarded _).1 accepted
    obtain ⟨p, listed, holds⟩ := Store.exists_of_accepts_anyOf admitted
    obtain ⟨g, mem, rfl⟩ := List.mem_map.1 listed
    exact ⟨⟨g, mem, holds⟩, notHidden⟩
  have searched (filter : Predicate) :
      s.Rejects model row (a.searched m model q filter).predicate := by
    unfold Access.searched narrowBySearch
    split
    · exact Store.rejects_narrow (Store.rejects_narrow scope)
    · exact Store.rejects_narrow scope
  obtain ⟨filter, _, ⟨_, arranged⟩ | ⟨_, exclude, _, arranged⟩⟩ := selection_cases found selected
  · rw [arranged.2]
    exact searched filter
  · rw [arranged.2]
    exact Store.rejects_narrow (searched filter)

/-- A query finds the same rows in stores that hold the same rows in its scope. -/
theorem matching_congr (found : a.catalog.get model = .ok m) (guarded : m.guards ≠ [])
    (selected : a.selection model q = .ok sel) (same : s.catalog = a.catalog)
    (apart : s.Apart model s')
    (scope : a.scopeRows m s' model = a.scopeRows m s model)
    (evaluates : ∀ row ∈ (s.table model).values, m.Evaluates a.request s model row)
    (evaluates' : ∀ row ∈ (s'.table model).values, m.Evaluates a.request s' model row)
    (avoids : ∀ c ∈ sel.predicate.conditions, s.catalog.Avoids model model c.segments) :
    s'.matching model sel.predicate = s.matching model sel.predicate := by
  classical
  have known : s.model model = .ok m := by
    rw [Store.model_ok_iff, same, ← Catalog.get_ok_iff, found]
  have known' : s'.model model = .ok m := by rw [Store.model_congr apart.catalog, known]
  have looked : s.matching model sel.predicate =
      Store.keepIf (fun row => s.holds model row sel.predicate) (a.scopeRows m s model) :=
    Store.matching_filter known fun row mem outside =>
      rejects_of_not_inScope found guarded selected (evaluates row mem) (by simpa using outside)
  have looked' : s'.matching model sel.predicate =
      Store.keepIf (fun row => s'.holds model row sel.predicate) (a.scopeRows m s' model) :=
    Store.matching_filter known' fun row mem outside =>
      rejects_of_not_inScope found guarded selected (evaluates' row mem) (by simpa using outside)
  have held (row : Row) := apart.holds avoids row
  rw [looked, looked', scope]
  simp only [held]

end Access

namespace Plan
variable {p : Plan} {s s' : Store}

/-- No relation leads to the rows of a model that the plan follows: not along the paths of its
predicate, its order and its aggregates, and not from the rows that it shows. -/
structure Avoids (p : Plan) (avoided : String) : Prop where
  conditions : ∀ c ∈ p.selection.predicate.conditions,
    p.access.catalog.Avoids avoided p.name c.segments
  order : ∀ term ∈ p.ordering, p.access.catalog.Avoids avoided p.name (Path.segments term.path)
  totals : ∀ field ∈ p.totals, p.access.catalog.Avoids avoided p.name (Path.segments field)
  shown : ∀ model field target,
    p.access.Follows p.outline (p.depth != 0) model field target → target ≠ avoided

/-- Two stores answer a read alike. -/
def AnswerAlike (s s' : Store) (c : Store.Call) : Prop :=
  c.isWrite = false ∧ (s'.answer c).1 = (s.answer c).1

/-- Stores in which the selection of a plan finds the same rows answer all that it asks alike. -/
theorem reads_alike (about : p.selection.model = p.name) (same : s.catalog = p.access.catalog)
    (apart : s.Apart p.name s')
    (kept : s'.matching p.name p.selection.predicate = s.matching p.name p.selection.predicate)
    (avoids : p.Avoids p.name) : p.Reads (AnswerAlike s s') := by
  have selected (sel : Selection) (arranged : p.selection.Arranges sel)
      (order : ∀ term ∈ sel.order, s.catalog.Avoids p.name p.name (Path.segments term.path)) :
      s'.select sel = s.select sel := by
    have own : sel.model = p.name := arranged.1.trans about
    refine apart.select ?_ (by rwa [own])
    rw [own, arranged.2, kept]
  have whole := selected _ p.selection.arranges_whole (by simp [Selection.whole])
  refine ⟨fun sel arranged ordered => ⟨rfl, ?_⟩, ⟨rfl, ?_⟩, fun function field mem => ⟨rfl, ?_⟩,
    fun model row field target follows => ⟨rfl, ?_⟩⟩
  · rw [Store.answer, Store.answer, Store.ask, Store.ask, selected sel arranged]
    rw [ordered, same]
    exact avoids.order
  · rw [Store.answer, Store.answer, Store.ask, Store.ask, Store.count, Store.count, whole]
  · have along := avoids.totals field mem
    rw [← same] at along
    exact apart.aggregate whole (by rwa [Selection.whole_model, about]) function
  · obtain ⟨listed, m, kind, found, known, hop⟩ := follows
    rw [Store.answer, Store.answer, Store.ask, Store.ask, apart.related]
    intro m' kind' target' found' known' leads
    rw [Store.model_ok_iff, same, ← Catalog.get_ok_iff, found] at found'
    obtain rfl : m = m' := Except.ok.inj found'
    obtain rfl : kind = kind' := Option.some.inj ((Model.kind?_eq_some known).symm.trans known')
    obtain rfl : target = target' :=
      Option.some.inj ((FieldKind.target?_of_hop? hop).symm.trans leads)
    exact avoids.shown model field target ⟨listed, m, kind, found, known, hop⟩

end Plan

namespace Engine
variable {e : Engine} {st st' : State} {model : String} {q : Query} {request : Request} {m : Model}

theorem course_of_not_isMutation {p : Plan} (reads : p.query.operation.isMutation = false) :
    ∃ course, e.course? p = some course := by
  unfold course?
  cases op : p.query.operation with
  | read | get | first | last | exist | single | aggregate => exact ⟨_, rfl⟩
  | create | bulkCreate | update | delete | updateInstance | deleteInstance | getOrCreate
    | updateOrCreate =>
    rw [op] at reads
    cases reads

theorem key_of_inquiry {p : Plan} {sel : Selection} {context : String} {o : Outline}
    {paths : List String} {script : Script Value} {inquiry : Inquiry}
    (made : p.inquiry sel context o paths script = .ok inquiry)
    (outside : p.request.transaction = none) : inquiry.job.key = none := by
  obtain ⟨models, _, made⟩ := Checks.bind_ok_iff.1 made
  rw [← Checks.pure_ok_iff.1 made, outside]
  exact ite_self none

/-- Outside a transaction no answer has a key. -/
theorem Asks.key_eq_none {p : Plan} {inquiry : Inquiry} {subject : Subject}
    (asks : e.Asks p inquiry subject) (outside : p.request.transaction = none) :
    inquiry.job.key = none := by
  cases asks with
  | list _ _ made =>
    obtain ⟨page, _, made⟩ := Checks.bind_ok_iff.1 made
    exact key_of_inquiry made outside
  | single _ _ made => exact key_of_inquiry made outside
  | term _ _ made => exact key_of_inquiry made outside

/-- A reading request outside a transaction comes to what its course comes to without the cache. -/
theorem execute_plain {p : Plan} {course : Course Response}
    (planned : (e.accessOf request).plan model q = .ok p) (laid : e.course? p = some course)
    (outside : request.transaction = none) (st : State) :
    (e.execute model q request st).1 = ⟨(course.plain st.store).1, []⟩ := by
  have own : p.request.transaction = none := by
    rw [Plan.request, (Access.plans_of_plan planned).accessed]
    exact outside
  have unnamed : course.All fun inquiry =>
      st.cache.settings.enabled = true → inquiry.job.key = none := by
    refine (all_asks laid).mono fun inquiry asked _ => ?_
    obtain ⟨subject, asks⟩ := asked
    exact asks.key_eq_none own
  obtain ⟨d, ran, _⟩ := Course.run_unnamed unnamed rfl st.store
  unfold execute
  simp only [planned, runPlan, reading_of_course laid]
  exact congrArg (Outcome.mk · []) (congrArg Prod.fst ran)

/-- Rows out of the caller's scope do not interfere with what a request reads of their model. -/
theorem rows_out_of_scope_do_not_interfere (found : e.catalog.get model = .ok m)
    (guarded : m.guards ≠ []) (reads : q.operation.isMutation = false)
    (outside : request.transaction = none) (same : st.store.catalog = e.catalog)
    (apart : st.store.Apart model st'.store)
    (scope : (e.accessOf request).scopeRows m st'.store model =
      (e.accessOf request).scopeRows m st.store model)
    (evaluates : ∀ row ∈ (st.store.table model).values, m.Evaluates request st.store model row)
    (evaluates' : ∀ row ∈ (st'.store.table model).values, m.Evaluates request st'.store model row)
    (avoids : ∀ p, (e.accessOf request).plan model q = .ok p → p.Avoids model) :
    (e.execute model q request st).1 = (e.execute model q request st').1 := by
  cases planned : (e.accessOf request).plan model q with
  | error fault => simp only [execute, planned]
  | ok p =>
    have plans := Access.plans_of_plan planned
    obtain rfl : model = p.name := plans.named.symm
    obtain rfl : q = p.query := plans.asked.symm
    obtain ⟨course, laid⟩ := course_of_not_isMutation (e := e) reads
    have about : p.selection.model = p.name := Access.selection_model plans.found plans.selected
    have accessed : e.accessOf request = p.access := plans.accessed.symm
    have catalog : st.store.catalog = p.access.catalog := by
      rw [same, ← accessed]
      rfl
    have avoids := avoids p planned
    have kept : st'.store.matching p.name p.selection.predicate =
        st.store.matching p.name p.selection.predicate := by
      refine Access.matching_congr found guarded plans.selected same apart scope evaluates
        evaluates' ?_
      rw [catalog]
      exact avoids.conditions
    have alike := (Plan.reads_alike about catalog apart kept avoids).asks_course laid
    rw [execute_plain planned laid outside, execute_plain planned laid outside,
      Course.plain_congr alike]

end Engine

namespace Access

def notesEngine : Engine := ⟨notesAccess.catalog, .default, none, fun _ => .ok ()⟩

def privateNote : Row := [("id", .int 3), ("owner", .str "carl"), ("shared", .bool false)]

def otherNotes : Store :=
  ((Store.ofCatalog notesAccess.catalog).insertMany "note" [privateNote, sharedNote]).2

def notesPlan : Plan where
  access := notesAccess
  model := notes
  name := "note"
  query := .plain .get
  selection := notesSelection
  depth := 0
  outline := .ofList [("note", .ofList ["archived", "id", "owner", "shared"])]

theorem notes_avoid : notesPlan.Avoids "note" := by
  have plain : ∀ name m, notesAccess.catalog.model? name = some m →
      ∀ f ∈ m.schema.fields, f.kind.target? = none := by
    intro name m found
    have only : ∀ m ∈ notesAccess.catalog.models.values,
        ∀ f ∈ m.schema.fields, f.kind.target? = none := by decide +kernel
    exact only m (Catalog.mem_values_of_model? found)
  have along := Catalog.avoids_of_kinds plain "note" "note"
  refine ⟨fun _ _ => along _, fun _ _ => along _, fun _ _ => along _, ?_⟩
  rintro model field target ⟨_, m, kind, found, known, hop⟩
  obtain ⟨f, listed, rfl⟩ := Option.map_eq_some_iff.1 (Model.kind?_eq_some known)
  have none := plain model m (Catalog.get_ok_iff.1 found) f (List.mem_of_find?_eq_some listed)
  rw [FieldKind.target?_of_hop? hop] at none
  cases none

theorem notes_evaluate {s : Store} {row : Row}
    (owned : s.Evaluates "note" row (.eq "owner" (.str "ann")))
    (shared : s.Evaluates "note" row (.eq "shared" (.bool true)))
    (archived : s.Evaluates "note" row (.eq "archived" (.bool true))) :
    notes.Evaluates .anonymous s "note" row :=
  List.forall_mem_cons.2 ⟨⟨owned, false, rfl⟩, List.forall_mem_singleton.2 ⟨shared, archived⟩⟩

/-- The shared note is found in both stores, next to an archived note or to a private one. -/
theorem shared_note_is_found_alike :
    (notesEngine.execute "note" (.plain .get) .anonymous ⟨notesStore, .ofSettings .default⟩).1 =
      (notesEngine.execute "note" (.plain .get) .anonymous ⟨otherNotes, .ofSettings .default⟩).1 ∧
    (notesEngine.execute "note" (.plain .get) .anonymous
      ⟨notesStore, .ofSettings .default⟩).1.answer.isOk = true := by
  have planned : (notesEngine.accessOf .anonymous).plan "note" (.plain .get) = .ok notesPlan := rfl
  have shared : notesAccess.InScope notes notesStore "note" sharedNote :=
    ⟨⟨_, List.mem_cons_of_mem _ List.mem_cons_self, by cbv⟩,
      List.forall_mem_cons.2 ⟨by cbv, List.forall_mem_singleton.2 (by cbv)⟩⟩
  have shared' : notesAccess.InScope notes otherNotes "note" sharedNote :=
    ⟨⟨_, List.mem_cons_of_mem _ List.mem_cons_self, by cbv⟩,
      List.forall_mem_cons.2 ⟨by cbv, List.forall_mem_singleton.2 (by cbv)⟩⟩
  have archived : ¬ notesAccess.InScope notes notesStore "note" archivedNote := by
    intro inside
    have shown := inside.notHidden _ (List.mem_cons_of_mem _ List.mem_cons_self)
    have hidden : notesStore.Accepts "note" archivedNote (.eq "archived" (.bool true)) := by cbv
    exact shown.not_accepts hidden
  have kept : ¬ notesAccess.InScope notes otherNotes "note" privateNote := by
    rintro ⟨⟨g, mem, admitted⟩, _⟩
    have foreign : otherNotes.Rejects "note" privateNote (.eq "owner" (.str "ann")) := by cbv
    have unshared : otherNotes.Rejects "note" privateNote (.eq "shared" (.bool true)) := by cbv
    simp only [notes, List.mem_cons, List.not_mem_nil, or_false] at mem
    rcases mem with rfl | rfl
    · exact foreign.not_accepts admitted
    · exact unshared.not_accepts admitted
  have rows : (notesStore.table "note").values = [sharedNote, archivedNote] := rfl
  have rows' : (otherNotes.table "note").values = [privateNote, sharedNote] := rfl
  have apart : notesStore.Apart "note" otherNotes := by
    refine ⟨rfl, fun other ne => ?_⟩
    exact (Store.table_withTable_of_ne _ ne).trans (Store.table_withTable_of_ne _ ne).symm
  have scope : notesAccess.scopeRows notes otherNotes "note" =
      notesAccess.scopeRows notes notesStore "note" := by
    simp [scopeRows, rows, rows', shared, shared', archived, kept]
  have evaluates : ∀ row ∈ (notesStore.table "note").values,
      notes.Evaluates .anonymous notesStore "note" row := by
    rw [rows]
    exact List.forall_mem_cons.2 ⟨notes_evaluate ⟨_, by cbv⟩ ⟨_, by cbv⟩ ⟨_, by cbv⟩,
      List.forall_mem_singleton.2 (notes_evaluate ⟨_, by cbv⟩ ⟨_, by cbv⟩ ⟨_, by cbv⟩)⟩
  have evaluates' : ∀ row ∈ (otherNotes.table "note").values,
      notes.Evaluates .anonymous otherNotes "note" row := by
    rw [rows']
    exact List.forall_mem_cons.2 ⟨notes_evaluate ⟨_, by cbv⟩ ⟨_, by cbv⟩ ⟨_, by cbv⟩,
      List.forall_mem_singleton.2 (notes_evaluate ⟨_, by cbv⟩ ⟨_, by cbv⟩ ⟨_, by cbv⟩)⟩
  refine ⟨Engine.rows_out_of_scope_do_not_interfere (m := notes) rfl (List.cons_ne_nil _ _) rfl rfl
    rfl apart scope evaluates evaluates' fun p planned' => ?_, by decide +kernel⟩
  obtain rfl := Except.ok.inj (planned.symm.trans planned')
  exact notes_avoid

end Access

end GuardedQuery
