import GuardedQuery.Proofs.Cache.Calls
import GuardedQuery.Proofs.Engine.Transparency
import GuardedQuery.Proofs.Plan
import GuardedQuery.Proofs.Presentation.Cards
import GuardedQuery.Proofs.Selection.Windows
import GuardedQuery.Proofs.Store.Inverses
import GuardedQuery.Proofs.Vetting.Walk

/-! The reading operations agree. Operations of one query share a plan but for the operation, and
what they do is told by the rows of one selection: the list shows all of them, the first and the
only one are looked for through a window at its start, and the number of rows is that of the
primary keys. -/

namespace GuardedQuery

/-! The number of rows -/

namespace Store
variable {s : Store} {model : String} {m : Model}

/-- By its alias, the primary key is the value of its column. -/
theorem valuesAlong_key (known : s.model model = .ok m)
    (plain : (m.schema.kind? m.schema.key).bind FieldKind.target? = none) (row : Row) :
    s.valuesAlong model row [keyAlias] = .ok [(row.get? m.schema.key).getD .null] := by
  have key : (if m.isKey keyAlias then m.schema.key else keyAlias) = m.schema.key := by
    simp [Model.isKey]
  rw [valuesAlong, known]
  simp only [bind, Except.bind, key]
  generalize m.schema.kind? m.schema.key = kind at plain ⊢
  rcases kind with _ | kind
  · rfl
  · cases kind with
    | scalar | json => rfl
    | toOne | toMany | reverse => cases plain

/-- Every row has one primary key, which is not null. -/
theorem aggregate_count_key {c : Catalog} (grown : s.Grown c) (keys : c.PlainKeys)
    {sel : Selection} (found : c.get sel.model = .ok m) {rows : List Row}
    (selected : s.select sel = .ok rows) :
    s.aggregate sel .count keyAlias = .ok (.int rows.length) := by
  have listed := Catalog.get_ok_iff.1 found
  have known := model_of_get grown.spec.1 found
  have values : (rows.mapM fun row => s.valuesAlong sel.model row (Path.segments keyAlias)) =
      .ok (rows.map fun row => [(row.get? m.schema.key).getD .null]) := by
    refine Checks.mapM_ok_iff.2 (List.forall₂_map_right_iff.2 (List.forall₂_same.2 fun row _ => ?_))
    exact valuesAlong_key known (keys _ _ listed) row
  have filled : (rows.map fun row => [(row.get? m.schema.key).getD .null]).flatten.filter
      (!·.isNull) = rows.map fun row => (row.get? m.schema.key).getD .null := by
    rw [← List.flatMap_def, ← List.map_eq_flatMap, List.filter_eq_self]
    intro value mem
    obtain ⟨row, inside, rfl⟩ := List.mem_map.1 mem
    obtain ⟨key, own, nonnull⟩ :=
      grown.stored_key listed (accepts_of_mem_select selected inside).1
    simp [own, nonnull]
  rw [aggregate, collect, selected]
  simp only [bind, Except.bind, values, pure, Except.pure, filled, Except.mapError,
    Aggregate.result, List.length_map]

end Store

/-! One plan for all operations -/

namespace Access
variable {a : Access} {model : String} {q : Query} {p : Plan}

theorem vet_key {m : Model} (found : a.catalog.get model = .ok m) :
    a.vetAggregate model keyAlias = .ok () := by
  have names : fieldNames keyAlias = [keyAlias] := by decide +kernel
  have key : m.isKey keyAlias = true := by simp [Model.isKey]
  rw [vetAggregate, vetPath, names, walk, if_neg (by decide), found]
  simp [key, bind, Except.bind, pure, Except.pure]

/-- A plan is one for every operation of the same action, if what is to be aggregated passes. -/
theorem plan_as (planned : a.plan model q = .ok p) {op : Operation} {field : Option String}
    (alike : op.action = q.operation.action)
    (passes : op.function?.isSome = true → ∀ path ∈ field, a.vetAggregate model path = .ok ()) :
    a.plan model { q with operation := op, field } =
      .ok { p with query := { q with operation := op, field } } := by
  have plans := plans_of_plan planned
  have vets := vets_of_vet plans.vetted
  have vetted : a.Vets model { q with operation := op, field } :=
    ⟨vets.output, vets.filter, vets.exclude, vets.lookup, vets.order, passes, vets.several⟩
  have allowed : a.requireAction model op.action = .ok () := by
    rw [alike]
    exact plans.allowed
  exact Plans.plan ⟨plans.accessed, plans.named, rfl, plans.found, allowed, vetted.vet,
    plans.selected, plans.deep, plans.outlined⟩

end Access

/-! What the operations come to -/

theorem Script.run_fault {α β : Type} {script : Script α} {next : α → Script β} {s after : Store}
    {e : Error} (ran : script.run s = (.error e, after)) :
    (script >>= next).run s = (.error e, after) := by
  refine (run_bind script next s).trans ?_
  rw [ran]

/-- The error of a row that may not be read. -/
def unreadable : Error := (Access.Denial.row .read).toError

/-- The answer carries the data. -/
def Carries (answer : Except Error Response) (data : Value) : Prop :=
  ∃ r, answer = .ok r ∧ r.data = data

/-- The answer carries the first of the items, or null without any, unless it may not be read. -/
def CarriesFirst (answer : Except Error Response) : List Value → Prop
  | [] => Carries answer .null
  | item :: _ => Carries answer item ∨ answer = .error unreadable

/-- The answer carries the only item, unless it may not be read, and tells if there is none or if
there are several. -/
def CarriesOnly (answer : Except Error Response) (model : String) : List Value → Prop
  | [] => answer = .error (.notFound ("No " ++ model ++ " matches the given query."))
  | [item] => Carries answer item ∨ answer = .error unreadable
  | _ => answer =
    .error (.multipleRows ("Multiple " ++ model ++ " instances match the given query."))

namespace Plan
open Engine
variable {p : Plan} {s : Store} {rows : List Row}

/-- The rows that a plan selects, and the values as which they are shown. -/
structure Lists (p : Plan) (s : Store) (rows : List Row) (items : List Value) : Prop where
  free : p.selection.Unbounded
  known : p.access.catalog.get p.name = .ok p.model
  selected : s.select p.selection = .ok rows
  shown : List.Forall₂ (fun row item => (p.present row).run s = (.ok item, s)) rows items

theorem requireRow_cases (known : p.access.catalog.get p.name = .ok p.model) (row : Row) :
    p.requireRow row .read = .ok () ∨ p.requireRow row .read = .error unreadable := by
  rw [Plan.requireRow, Access.requireRow, known]
  simp only [bind, Except.bind]
  cases p.model.allowsRow p.access.request .read row
  · exact .inr rfl
  · exact .inl rfl

/-- A row is checked before it is shown. -/
theorem run_checked (known : p.access.catalog.get p.name = .ok p.model) {row : Row} {item : Value}
    (shown : (p.present row).run s = (.ok item, s)) :
    ((liftM (p.requireRow row .read) : Script Unit) >>= fun _ => p.present row).run s =
        (.ok item, s) ∨
      ((liftM (p.requireRow row .read) : Script Unit) >>= fun _ => p.present row).run s =
        (.error unreadable, s) := by
  rcases requireRow_cases known row with passed | denied
  · exact .inl ((Script.run_check passed).trans shown)
  · right
    rw [denied]
    rfl

/-- The first row of a selection is checked before it is shown. -/
theorem run_showFirst {sel : Selection} {row : Row} (free : sel.Unbounded) (selected : s.select sel = .ok (row :: rows)) :
    (p.showFirst sel).run s =
      (do p.requireRow row .read; p.present row : Script Value).run s := by
  rewrite [showFirst, Script.run_check (free.window (some 1)),
    Script.run_select (Store.select_limited free 1 selected)]
  rfl

namespace Lists
variable {items : List Value} (lists : p.Lists s rows items)
include lists

theorem length_eq : items.length = rows.length := lists.shown.length_eq.symm

theorem exist : Carries (p.exist.run s).1 (.bool (decide (items ≠ []))) := by
  obtain ⟨found, selected, perm⟩ := Store.select_whole lists.free lists.selected
  have counted : (Script.count p.selection.whole).run s = (.ok rows.length, s) := by
    rw [Script.count, Script.run_request]
    change (((List.length <$> s.select p.selection.whole).mapError Store.Error.toError, s) :
      Except Error Nat × Store) = _
    rw [selected, ← perm.length_eq]
    rfl
  have same : decide (0 < rows.length) = decide (items ≠ []) := by
    rw [← lists.length_eq, decide_eq_decide, List.length_pos_iff]
  rw [Plan.exist, Script.run_next counted]
  exact ⟨_, rfl, by rw [← same]; rfl⟩

theorem first : CarriesFirst (p.first.run s).1 items := by
  have cut := lists.free.window (some 1)
  have selected := Store.select_limited lists.free 1 lists.selected
  rw [Plan.first]
  cases lists.shown with
  | nil =>
    have found : (p.showFirst p.selection).run s = (.ok .null, s) := by
      rewrite [showFirst, Script.run_check cut, Script.run_select selected]
      rfl
    rw [Script.run_next found]
    exact ⟨_, rfl, rfl⟩
  | cons shown _ =>
    have found := run_showFirst (p := p) lists.free lists.selected
    rcases run_checked lists.known shown with passed | denied
    · rw [Script.run_next (found.trans passed)]
      exact .inl ⟨_, rfl, rfl⟩
    · rw [Script.run_fault (found.trans denied)]
      exact .inr rfl

theorem get : CarriesOnly (p.get.run s).1 p.name items := by
  have cut := lists.free.window (some 2)
  have selected := Store.select_limited lists.free 2 lists.selected
  rw [Plan.get]
  cases lists.shown with
  | nil =>
    have found : (p.only p.selection).run s =
        (.error (.notFound ("No " ++ p.name ++ " matches the given query.")), s) := by
      rewrite [only, Script.run_check cut, Script.run_select selected]
      rfl
    rw [Script.run_fault found]
    rfl
  | @cons row _ _ _ shown others =>
    cases others with
    | nil =>
      have found : (p.only p.selection).run s = (.ok row, s) := by
        rewrite [only, Script.run_check cut, Script.run_select selected]
        rfl
      rw [Script.run_next found]
      rcases requireRow_cases lists.known _ with passed | denied
      · rw [Script.run_check passed, Script.run_next shown]
        exact .inl ⟨_, rfl, rfl⟩
      · rw [denied]
        exact .inr rfl
    | cons =>
      have found : (p.only p.selection).run s =
          (.error (.multipleRows ("Multiple " ++ p.name ++
            " instances match the given query.")), s) := by
        rewrite [only, Script.run_check cut, Script.run_select selected]
        rfl
      rw [Script.run_fault found]
      rfl

end Lists

/-- What is listed is the rows of the selection, as they are shown. -/
theorem lists_of_showSelected (free : p.selection.Unbounded)
    (known : p.access.catalog.get p.name = .ok p.model) {data : Value} {after : Store}
    (ran : (p.showSelected p.selection).run s = (.ok data, after)) :
    ∃ rows items, data = .arr items ∧ p.Lists s rows items := by
  obtain ⟨rows, selected, ran⟩ := Script.run_select_ok ran
  obtain ⟨_, card, made, rfl⟩ := (Access.yields_presentAll p.depth p.name rows).ok ran
  obtain ⟨cards, made, is⟩ := Checks.bind_ok_iff.1 made
  refine ⟨rows, cards.map Card.value, ?_, free, known, selected, ?_⟩
  · rw [← Checks.pure_ok_iff.1 is, Card.value_list]
  · refine List.forall₂_map_right_iff.2 ((Checks.mapM_ok_iff.1 made).imp fun row card here => ?_)
    rw [present, Access.shows_card p.depth p.name row, here]
    rfl

/-- Without an offset and a limit, the page is the whole selection. -/
theorem page_whole (free : p.selection.Unbounded) (offset : p.query.options.offset = none)
    (limit : p.query.options.limit = none) : p.page none = .ok p.selection := by
  have same : { p.selection with limit := none } = p.selection := by rw [← free.limit]
  rw [page, offset, limit]
  exact (free.window none).trans (congrArg Except.ok same)

/-- Where the models behind a list can be told, so can those behind the number of its rows. -/
theorem exists_dependencies_whole {c : Catalog} {sel : Selection} {m : Model} {o : Outline}
    {paths : List String} {models : NameSet} (found : c.get sel.model = .ok m)
    (listed : c.dependencies sel o paths = .ok models) :
    ∃ models, c.dependencies sel.whole .empty [keyAlias] = .ok models := by
  have depends := Catalog.depends_of_dependencies listed
  have along : ∃ lists, ((sel.whole.predicate.conditions.map (·.path) ++
      sel.whole.order.map (·.path) ++ [keyAlias]).mapM fun path =>
        c.modelsAlong sel.whole.model (Path.segments path)) = .ok lists := by
    refine Checks.exists_mapM_ok fun path mem => ?_
    rcases List.mem_append.1 mem with mem | mem
    · obtain ⟨condition, inside, rfl⟩ : ∃ condition ∈ sel.predicate.conditions,
          condition.path = path := by simpa [Selection.whole] using mem
      obtain ⟨names, walked, _⟩ := depends.looks.conditions condition inside
      exact ⟨names, walked⟩
    · obtain rfl := List.mem_singleton.1 mem
      have segments : Path.segments keyAlias = [keyAlias] := by decide +kernel
      rw [Selection.whole_model, segments, Catalog.modelsAlong, found]
      simp only [bind, Except.bind]
      split
      · exact ⟨_, rfl⟩
      · exact ⟨_, rfl⟩
  obtain ⟨lists, walked⟩ := along
  rw [Catalog.dependencies, walked]
  exact ⟨_, rfl⟩

end Plan

/-! Answers -/

namespace Engine
variable {e : Engine} {s : Store} {d : Demand} {p : Plan} {answer : Except Error Response}

/-- Under the keys of the inquiries of a demand, the cache holds nothing but what they come to. -/
def Current (e : Engine) (d : Demand) (st : State) : Prop :=
  ∀ p course, e.planOf d = .ok p → e.course? p = some course → course.All fun inquiry =>
    ∀ key value, inquiry.job.key = some key → st.cache.peek key = some value →
      (inquiry.script.run st.store).1 = .ok value

/-- A demand can be answered so on a store, whatever else the cache holds. -/
def Replies (e : Engine) (s : Store) (d : Demand) (answer : Except Error Response) : Prop :=
  ∃ cache, e.Current d ⟨s, cache⟩ ∧
    (e.execute d.model d.query d.request ⟨s, cache⟩).1.answer = answer

/-- A new cache is current. -/
theorem current_ofSettings (e : Engine) (d : Demand) (s : Store) (settings : CacheSettings) :
    e.Current d ⟨s, .ofSettings settings⟩ := fun _ course _ _ =>
  Course.all_of_forall (fun _ _ _ _ held => by cases held) course

theorem execute_course {course : Course Response} (planned : e.planOf d = .ok p)
    (laid : e.course? p = some course) (st : State) :
    e.execute d.model d.query d.request st =
      (⟨(course.run.run st).1, []⟩, (course.run.run st).2) := by
  have plan : (e.accessOf d.request).plan d.model d.query = .ok p := planned
  simp only [execute, plan, runPlan, reading_of_course laid]
  rfl

theorem Replies.script {calls : Script Response} (replies : e.Replies s d answer)
    (planned : e.planOf d = .ok p) (laid : e.course? p = some (.script calls)) :
    answer = (calls.run s).1 := by
  obtain ⟨cache, _, rfl⟩ := replies
  rw [execute_course planned laid]
  rfl

/-- An inquiry that is answered from a current cache comes to what its script comes to. -/
theorem Replies.inquiry {inquiry : Inquiry} {next : Value → Response}
    (replies : e.Replies s d answer) (planned : e.planOf d = .ok p)
    (laid : e.course? p = some (.ask inquiry fun value => .done (.ok (next value)))) :
    answer = (inquiry.script.run s).1.map next := by
  obtain ⟨cache, current, rfl⟩ := replies
  have told : ((Run.ofInquiry inquiry).run ⟨s, cache⟩).1 = (inquiry.script.run s).1 := by
    change (cache.run inquiry.job inquiry.script.run s).1 = _
    rcases Cache.run_spec cache inquiry.job inquiry.script.run s with
      ⟨key, value, named, held, _, ran, _⟩ | ⟨_, _, ran, _⟩
    · have own : inquiry.job.key = some key := Cache.keyOf_eq_some named
      rw [ran, (current p _ planned laid).1 key value own held]
    · rw [ran]
  rw [execute_course planned laid, Course.run, Run.run_bind]
  rcases ran : (Run.ofInquiry inquiry).run ⟨s, cache⟩ with ⟨fault | value, between⟩ <;>
    rw [ran] at told <;> rw [← told] <;> rfl

theorem Replies.done {result : Except Error Response} (replies : e.Replies s d answer)
    (planned : e.planOf d = .ok p) (laid : e.course? p = some (.done result)) :
    answer = result := by
  obtain ⟨cache, _, rfl⟩ := replies
  rw [execute_course planned laid]
  cases result <;> rfl

theorem Replies.refused {fault : Error} (replies : e.Replies s d answer)
    (turned : e.planOf d = .error fault) : answer = .error fault := by
  obtain ⟨cache, _, rfl⟩ := replies
  have plan : (e.accessOf d.request).plan d.model d.query = .error fault := turned
  rw [execute, plan]

theorem Replies.planned (replies : e.Replies s d answer) {r : Response} (done : answer = .ok r) :
    ∃ p, e.planOf d = .ok p := by
  cases planned : e.planOf d with
  | ok p => exact ⟨p, rfl⟩
  | error fault =>
    rw [replies.refused planned] at done
    cases done

/-- A list is told by its inquiry. -/
theorem Replies.listed {inquiry : Inquiry} (replies : e.Replies s d answer)
    (planned : e.planOf d = .ok p) (op : p.query.operation = .read)
    (made : p.listInquiry e.defaultLimit = .ok inquiry) :
    answer = (inquiry.script.run s).1.map fun data =>
      (Response.ofData data .rows).withFlag "read" (.bool true) := by
  refine replies.inquiry planned ?_
  rw [course?, op, Plan.listCourse, made]
  rfl

theorem Replies.unlisted {fault : Error} (replies : e.Replies s d answer)
    (planned : e.planOf d = .ok p) (op : p.query.operation = .read)
    (failed : p.listInquiry e.defaultLimit = .error fault) : answer = .error fault := by
  refine replies.done planned ?_
  rw [course?, op, Plan.listCourse, failed]
  rfl

/-- A list is answered in one way only, whatever the cache holds. -/
theorem Replies.unique {answer' : Except Error Response} (replies : e.Replies s d answer)
    (replies' : e.Replies s d answer') (op : d.query.operation = .read) : answer = answer' := by
  cases planned : e.planOf d with
  | error fault => rw [replies.refused planned, replies'.refused planned]
  | ok p =>
    rw [← (Access.plans_of_plan planned).asked] at op
    cases made : p.listInquiry e.defaultLimit with
    | ok inquiry => rw [replies.listed planned op made, replies'.listed planned op made]
    | error fault => rw [replies.unlisted planned op made, replies'.unlisted planned op made]

/-- A list that is answered shows the rows of the plan's selection. -/
theorem Replies.lists {listed : Response} (replies : e.Replies s d (.ok listed))
    (op : d.query.operation = .read) (unlimited : e.defaultLimit = none)
    (offset : d.query.options.offset = none) (limit : d.query.options.limit = none) :
    ∃ p rows items, e.planOf d = .ok p ∧ listed.data = .arr items ∧ p.Lists s rows items ∧
      ∃ models, p.access.catalog.dependencies p.selection p.outline [] = .ok models := by
  obtain ⟨p, planned⟩ := replies.planned rfl
  have plans := Access.plans_of_plan planned
  have free := Access.unbounded_selection plans.selected
  have page := Plan.page_whole free (by rw [plans.asked]; exact offset)
    (by rw [plans.asked]; exact limit)
  have own : p.query.operation = .read := (congrArg Query.operation plans.asked).trans op
  cases made : p.listInquiry e.defaultLimit with
  | error fault => cases replies.unlisted planned own made
  | ok inquiry =>
    have answered := replies.listed planned own made
    rw [unlimited] at made
    obtain ⟨_, cut, made⟩ := Checks.bind_ok_iff.1 made
    obtain rfl := Except.ok.inj (page.symm.trans cut)
    rw [p.inquiry_script made] at answered
    obtain ⟨models, depends, _⟩ := Checks.bind_ok_iff.1 made
    rcases ran : (p.showSelected p.selection).run s with ⟨fault | data, after⟩ <;>
      rw [ran] at answered <;> cases answered
    obtain ⟨rows, items, rfl, lists⟩ := Plan.lists_of_showSelected free plans.listed ran
    exact ⟨p, rows, items, planned, rfl, lists, _, depends⟩

/-- The primary keys that are counted are as many as the rows. -/
theorem Replies.counts (replies : e.Replies s d answer) (planned : e.planOf d = .ok p)
    (op : d.query.operation = .single .count) (field : d.query.field = some keyAlias)
    (grown : s.Grown e.catalog) (keys : e.catalog.PlainKeys) {rows : List Row} {items : List Value}
    (lists : p.Lists s rows items) {models : NameSet}
    (depends : p.access.catalog.dependencies p.selection p.outline [] = .ok models) :
    Carries answer (.int items.length) := by
  have plans := Access.plans_of_plan planned
  have about := plans.about
  have found : e.catalog.get p.selection.whole.model = .ok p.model := by
    rw [Selection.whole_model, about, plans.named]
    exact plans.found
  obtain ⟨models', depends'⟩ := Plan.exists_dependencies_whole
    (by rw [about]; exact plans.listed) depends
  have made : ∃ inquiry, p.aggregateInquiry .count keyAlias = .ok inquiry := by
    rw [Plan.aggregateInquiry, Plan.inquiry, depends']
    exact ⟨_, rfl⟩
  obtain ⟨inquiry, made⟩ := made
  have laid : e.course? p = some (p.singleCourse .count) := by
    rw [course?, plans.asked, op]
  simp only [Plan.singleCourse, plans.asked, field, made] at laid
  obtain ⟨selected, whole, perm⟩ := Store.select_whole lists.free lists.selected
  have total : (inquiry.script.run s).1 = .ok (.int items.length) := by
    rw [p.inquiry_script made, Script.aggregate, Script.run_request]
    change s.aggregate p.selection.whole .count keyAlias = _
    rw [Store.aggregate_count_key grown keys found whole, perm.length_eq, lists.length_eq]
  rw [replies.inquiry planned laid, total]
  exact ⟨_, rfl, rfl⟩

/-- The demand with another operation that reads. -/
def Demand.by (d : Demand) (op : Operation) : Demand :=
  { d with query := { d.query with operation := op } }

/-- The demand for the number of rows. -/
def Demand.counting (d : Demand) : Demand :=
  { d with query := { d.query with operation := .single .count, field := some keyAlias } }

/-- The reading operations agree. If a demand without limits lists rows, then their number, their
existence, the first and the only one of them are what the list tells, unless a row that is looked
at by itself may not be read. -/
theorem reading_operations_agree (e : Engine) (s : Store) (d : Demand)
    (grown : s.Grown e.catalog) (keys : e.catalog.PlainKeys) (unlimited : e.defaultLimit = none)
    (offset : d.query.options.offset = none) (limit : d.query.options.limit = none)
    {listed : Response} (replies : e.Replies s (d.by .read) (.ok listed)) :
    ∃ items, listed.data = .arr items ∧
      (∀ answer, e.Replies s d.counting answer → Carries answer (.int items.length)) ∧
      (∀ answer, e.Replies s (d.by .exist) answer →
        Carries answer (.bool (decide (items ≠ [])))) ∧
      (∀ answer, e.Replies s (d.by .first) answer → CarriesFirst answer items) ∧
      ∀ answer, e.Replies s (d.by .get) answer → CarriesOnly answer d.model items := by
  obtain ⟨p, rows, items, planned, data, lists, models, depends⟩ :=
    replies.lists rfl unlimited offset limit
  have plans := Access.plans_of_plan planned
  have other {op : Operation} (reads : op.action = .read) (plain : op.function? = none) :
      e.planOf (d.by op) = .ok { p with query := (d.by op).query } :=
    Access.plan_as planned reads (by rw [plain]; exact nofun)
  have single : e.planOf d.counting = .ok { p with query := d.counting.query } := by
    refine Access.plan_as planned rfl fun _ path given => ?_
    obtain rfl := Option.mem_some.1 given
    exact Access.vet_key plans.found
  have shown (query : Query) : { p with query }.Lists s rows items :=
    ⟨lists.free, lists.known, lists.selected, lists.shown⟩
  refine ⟨items, data, fun answer counted => ?_, fun answer asked => ?_, fun answer asked => ?_,
    fun answer asked => ?_⟩
  · exact counted.counts single rfl rfl grown keys (shown _) depends
  · rw [asked.script (other rfl rfl) rfl]
    exact (shown _).exist
  · rw [asked.script (other rfl rfl) rfl]
    exact (shown _).first
  · rw [asked.script (other rfl rfl) rfl]
    exact plans.named ▸ (shown (d.by .get).query).get

end Engine

/-! The players of one team, last name first -/

namespace Teams
open Engine

def player : Model :=
  { Model.ofSchema (((Schema.ofKey "player" "id").withField ⟨"name", .scalar⟩).withField
      ⟨"team", .scalar⟩) with guards := [.allowAll] }

def engine : Engine := ⟨⟨.ofList [("player", player)]⟩, .default, none, fun _ => .ok ()⟩

def row (id : Int) (name team : String) : Row :=
  [("id", .int id), ("name", .str name), ("team", .str team)]

def players : Store := ((Store.ofCatalog engine.catalog).answer
  (.insertMany "player" [row 1 "ann" "red", row 2 "bea" "blue", row 3 "cid" "red"])).2

def reds : Demand where
  model := "player"
  query := { Query.plain .read with
    filter := .filter [("team", .str "red")] []
    order := ["-name"] }
  request := { Request.anonymous with transaction := some "t" }

/-- The names that an answer shows. -/
def names (answer : Except Error Response) : Option (List (Option String)) :=
  (answer.toOption.bind (·.data.arr?)).map fun items => items.map fun item =>
    (item.field? "name").bind Value.str?

/-- The list shows two of the players, which the other operations confirm. -/
theorem reds_agree :
    players.Grown engine.catalog ∧ engine.catalog.PlainKeys ∧
    ∃ listed cid ann, engine.Replies players (reds.by .read) (.ok listed) ∧
      names (.ok listed) = some [some "cid", some "ann"] ∧ listed.data = .arr [cid, ann] ∧
      (∀ answer, engine.Replies players reds.counting answer → Carries answer (.int 2)) ∧
      (∀ answer, engine.Replies players (reds.by .exist) answer → Carries answer (.bool true)) ∧
      (∀ answer, engine.Replies players (reds.by .first) answer →
        Carries answer cid ∨ answer = .error unreadable) ∧
      ∀ answer, engine.Replies players (reds.by .get) answer → answer =
        .error (.multipleRows "Multiple player instances match the given query.") := by
  have grown : players.Grown engine.catalog := .answer .new _
  have keys : engine.catalog.PlainKeys := Catalog.plainKeys_of_kinds (by decide +kernel)
  have listing : ∃ listed, engine.Replies players (reds.by .read) (.ok listed) ∧
      names (.ok listed) = some [some "cid", some "ann"] := by
    have shown : names (engine.execute "player" (reds.by .read).query reds.request
        ⟨players, .ofSettings .default⟩).1.answer = some [some "cid", some "ann"] := by
      decide +kernel
    cases answered : (engine.execute "player" (reds.by .read).query reds.request
        ⟨players, .ofSettings .default⟩).1.answer with
    | error fault =>
      rw [answered] at shown
      cases shown
    | ok listed =>
      exact ⟨listed, ⟨_, current_ofSettings _ _ _ _, answered⟩, answered ▸ shown⟩
  obtain ⟨listed, replies, shown⟩ := listing
  obtain ⟨items, data, count, exist, first, get⟩ :=
    reading_operations_agree engine players reds grown keys rfl rfl rfl replies
  have two : ∃ cid ann, items = [cid, ann] := by
    refine List.length_eq_two.1 ?_
    simpa [names, data, Except.toOption, Value.arr?] using
      congrArg (Option.map List.length) shown
  obtain ⟨cid, ann, rfl⟩ := two
  exact ⟨grown, keys, listed, cid, ann, replies, shown, data, count, exist, first, get⟩

end Teams

end GuardedQuery
