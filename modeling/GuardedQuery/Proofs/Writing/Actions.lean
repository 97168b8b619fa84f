import GuardedQuery.Proofs.Engine.Atomicity

/-! Which actions a request needs. Every change of a stored row traces back to an action that the
guards of its model grant: a row is inserted, changed or removed only where creating, updating or
deleting is granted, and reading needs a grant as well. A model without guards grants nothing. -/

namespace GuardedQuery

namespace Access
variable {a : Access} {m : Model} {model : String} {action : Action}

theorem get_of_requireAction (allowed : a.requireAction model action = .ok ()) :
    ∃ m, a.catalog.get model = .ok m := by
  unfold requireAction allows actions at allowed
  obtain ⟨granted, decided, _⟩ := Checks.bind_ok_iff.1 allowed
  obtain ⟨actions, listed, _⟩ := Checks.bind_ok_iff.1 decided
  obtain ⟨m, found, _⟩ := Checks.bind_ok_iff.1 listed
  exact ⟨m, found⟩

theorem requireAction_ok_iff (found : a.catalog.get model = .ok m) :
    a.requireAction model action = .ok () ↔ action ∈ m.actions a.request := by
  unfold requireAction allows actions
  rw [found]
  by_cases granted : action ∈ m.actions a.request <;>
    simp [bind, Except.bind, pure, Except.pure, throw, throwThe, MonadExceptOf.throw, granted]

end Access

namespace Store

/-- The row of a number has come into a store. -/
def Inserted (s after : Store) (model : String) (n : Nat) : Prop :=
  s.rowAt model n = none ∧ (after.rowAt model n).isSome

/-- The row of a number has become another one. -/
def Updated (s after : Store) (model : String) (n : Nat) : Prop :=
  ∃ old now, s.rowAt model n = some old ∧ after.rowAt model n = some now ∧ now ≠ old

/-- The row of a number is there no longer. -/
def Removed (s after : Store) (model : String) (n : Nat) : Prop :=
  (s.rowAt model n).isSome ∧ after.rowAt model n = none

/-- The rows of a model that differ between two stores differ in permitted ways: rows have come only
if insertions are permitted, changed only if updates are, and gone only if removals are. -/
structure Licensed (s after : Store) (model : String) (insert update remove : Prop) : Prop where
  inserted : ∀ n, s.Inserted after model n → insert
  updated : ∀ n, s.Updated after model n → update
  removed : ∀ n, s.Removed after model n → remove

variable {s after : Store} {model : String} {insert update remove : Prop}

theorem licensed_of_table (same : after.table model = s.table model) :
    s.Licensed after model insert update remove := by
  have rows (n : Nat) : after.rowAt model n = s.rowAt model n := by rw [rowAt, rowAt, same]
  refine ⟨?_, ?_, ?_⟩
  · rintro n ⟨before, later⟩
    rw [rows, before] at later
    cases later
  · rintro n ⟨old, now, before, later, ne⟩
    rw [rows, before] at later
    exact absurd (Option.some.inj later).symm ne
  · rintro n ⟨before, later⟩
    rw [← rows, later] at before
    cases before

theorem Extends.licensed {keyName : String} {rows : List Row}
    (h : s.Extends after model keyName rows) (permitted : insert) :
    s.Licensed after model insert update remove := by
  refine ⟨fun _ _ => permitted, ?_, ?_⟩
  · rintro n ⟨old, now, before, later, ne⟩
    rw [h.rowAt, before, Option.some_or] at later
    exact absurd (Option.some.inj later).symm ne
  · rintro n ⟨before, later⟩
    obtain ⟨row, there⟩ := Option.isSome_iff_exists.1 before
    rw [h.rowAt, there, Option.some_or] at later
    cases later

theorem Amends.licensed {columns : String → Prop} (h : s.Amends after model columns)
    (permitted : update) : s.Licensed after model insert update remove := by
  refine ⟨?_, fun _ _ => permitted, ?_⟩
  · rintro n ⟨before, later⟩
    have step := h.rows n
    obtain ⟨row, there⟩ := Option.isSome_iff_exists.1 later
    rw [before, there] at step
    cases step
  · rintro n ⟨before, later⟩
    have step := h.rows n
    obtain ⟨row, there⟩ := Option.isSome_iff_exists.1 before
    rw [there, later] at step
    cases step

theorem Drops.licensed (h : s.Drops after model) (permitted : remove) :
    s.Licensed after model insert update remove := by
  refine ⟨?_, ?_, fun _ _ => permitted⟩
  · rintro n ⟨before, later⟩
    obtain ⟨row, there⟩ := Option.isSome_iff_exists.1 later
    rw [h.rows n row there] at before
    cases before
  · rintro n ⟨old, now, before, later, ne⟩
    rw [h.rows n now later] at before
    exact absurd (Option.some.inj before) ne

end Store

namespace Engine

/-- Some guard of the model lets the request do something. -/
def Grants (e : Engine) (request : Request) (model : String) (action : Action) : Prop :=
  ∃ m, e.catalog.get model = .ok m ∧ ∃ g ∈ m.guards, action ∈ g.actions request

variable {e : Engine} {st : State} {model : String} {q : Query} {request : Request}

theorem grants_of_requireAction {action : Action}
    (allowed : (e.accessOf request).requireAction model action = .ok ()) :
    e.Grants request model action := by
  obtain ⟨m, found⟩ := Access.get_of_requireAction allowed
  exact ⟨m, found, List.mem_flatMap.1 ((Access.requireAction_ok_iff found).1 allowed)⟩

theorem tables_of_failure (failed : (e.execute model q request st).1.answer.isOk = false) :
    (e.execute model q request st).2.store.tables = st.store.tables := by
  unfold execute at failed ⊢
  split
  case h_2 => rfl
  case h_1 p planned =>
    simp only [planned, runPlan] at failed ⊢
    split
    · rename_i run reading
      exact congrArg Store.tables (Run.store_of_asks (fun _ => not_isWrite_of_readsWithin)
        (p.asks_handling reading) st)
    · rename_i script writing
      rw [writing] at failed
      exact (untouched_of_failure failed).tables

/-- Whether it is answered or not, a request has changed nothing, or a plan of it has written. -/
theorem effect_of_execute (e : Engine) (st : State) (model : String) (q : Query)
    (request : Request) :
    (e.execute model q request st).2.store.tables = st.store.tables ∨
      ∃ p after, (e.accessOf request).Plans model q p ∧ p.Effect st.store.begin after ∧
        (e.execute model q request st).2.store = after.commit := by
  cases answered : (e.execute model q request st).1.answer.isOk with
  | false => exact .inl (tables_of_failure answered)
  | true =>
    obtain ⟨r, deliveries, st', executed⟩ := executed_of_isOk answered
    obtain ⟨p, plans, kept | ⟨after, effect, committed⟩⟩ := effect_of_executed executed
    · exact .inl (by rw [executed, kept])
    · exact .inr ⟨p, after, plans, effect, by rw [executed, committed]⟩

/-- The rows that differ after a request, whether it is answered or not, are rows of its model, and
each of them differs in a way that the guards of the model grant the request. -/
theorem licensed_execute (other : String) :
    st.store.Licensed (e.execute model q request st).2.store other
      (other = model ∧ e.Grants request model q.operation.insertion)
      (other = model ∧ e.Grants request model .update)
      (other = model ∧ e.Grants request model .delete) := by
  rcases effect_of_execute e st model q request with same | ⟨p, after, plans, effect, committed⟩
  · exact Store.licensed_of_table (by rw [Store.table, Store.table, same])
  obtain rfl : model = p.name := plans.named.symm
  obtain rfl : q = p.query := plans.asked.symm
  have granted {action : Action} (allowed : p.access.requireAction p.name action = .ok ()) :
      e.Grants request p.name action := by
    rw [plans.accessed] at allowed
    exact grants_of_requireAction allowed
  suffices licensed : st.store.begin.Licensed after other
      (other = p.name ∧ e.Grants request p.name p.query.operation.insertion)
      (other = p.name ∧ e.Grants request p.name .update)
      (other = p.name ∧ e.Grants request p.name .delete) by
    rw [committed]
    exact ⟨licensed.inserted, licensed.updated, licensed.removed⟩
  by_cases about : other = p.name
  · subst about
    cases effect with
    | nothing same => exact Store.licensed_of_table (by rw [same])
    | adding allowed _ _ grows => exact grows.licensed ⟨rfl, granted allowed⟩
    | changing allowed _ alters => exact alters.licensed ⟨rfl, granted allowed⟩
    | removing allowed shrinks => exact shrinks.licensed ⟨rfl, granted allowed⟩
  · exact Store.licensed_of_table (effect.others about)

theorem action_of_not_isMutation (reads : q.operation.isMutation = false) :
    q.operation.action = .read := by
  cases h : q.operation <;> simp_all [Operation.isMutation, Operation.action]

/-- Without guards, no request gets as far as a plan. -/
theorem execute_unguarded {m : Model} (found : e.catalog.get model = .ok m)
    (unguarded : m.guards = []) :
    ∃ fault, e.execute model q request st = (⟨.error fault, []⟩, st) := by
  unfold execute
  split
  case h_2 fault _ => exact ⟨fault, rfl⟩
  case h_1 p planned =>
    have plans := Access.plans_of_plan planned
    exact absurd unguarded (Access.guarded_of_requireAction found plans.allowed)

/-- A request inserts, changes and removes rows of its model only, and only if the guards of the
model grant it to create, to update and to delete. To be answered, it has to be granted the action
of its operation, which is to read unless it is a mutation. On a model without guards every request
fails, and leaves everything as it was. -/
theorem effects_need_grants (e : Engine) (st : State) (model : String) (request : Request) :
    (∀ (q : Query) (other : String),
      st.store.Licensed (e.execute model q request st).2.store other
        (other = model ∧ e.Grants request model q.operation.insertion)
        (other = model ∧ e.Grants request model .update)
        (other = model ∧ e.Grants request model .delete)) ∧
    (∀ q : Query, (e.execute model q request st).1.answer.isOk = true →
      e.Grants request model q.operation.action) ∧
    (∀ q : Query, q.operation.isMutation = false →
      (e.execute model q request st).1.answer.isOk = true → e.Grants request model .read) ∧
    ∀ m : Model, e.catalog.get model = .ok m → m.guards = [] →
      (∀ q : Query, ∃ fault, e.execute model q request st = (⟨.error fault, []⟩, st)) ∧
      ∀ ast : Value, ∃ fault, e.executeValue model ast request st = (⟨.error fault, []⟩, st) := by
  have granted (q : Query) (answered : (e.execute model q request st).1.answer.isOk = true) :
      e.Grants request model q.operation.action := by
    obtain ⟨r, deliveries, st', executed⟩ := executed_of_isOk answered
    obtain ⟨p, plans, _⟩ := effect_of_executed executed
    exact grants_of_requireAction plans.allowed
  refine ⟨fun q other => licensed_execute other, granted, fun q reads answered => ?_,
    fun m found none => ?_⟩
  · rw [← action_of_not_isMutation reads]
    exact granted q answered
  · refine ⟨fun q => execute_unguarded found none, fun ast => ?_⟩
    unfold executeValue
    split
    · exact execute_unguarded found none
    · exact ⟨_, rfl⟩

end Engine

/-! Notices that everyone may post and read, and drafts that nobody has been given -/

namespace Notices

def titled (name : String) : Schema := (Schema.ofKey name "id").withField ⟨"title", .scalar⟩

/-- Notices can be looked up, and created on a miss. -/
def notice : Model :=
  { Model.ofSchema (titled "notice") with
    guards := [{ Guard.allowAll with actions := fun _ => [.read, .create] }] }

def draft : Model := Model.ofSchema (titled "draft")

def engine : Engine :=
  ⟨⟨.ofList [("draft", draft), ("notice", notice)]⟩, .default, none, fun _ => .ok ()⟩

def state : Engine.State := ⟨.ofCatalog engine.catalog, .ofSettings .default⟩

/-- Looks a notice up, or posts it. -/
def post : Query := { Query.plain .getOrCreate with lookup := [("title", .str "a")] }

/-- The first notice comes into the store because creating is granted, and it is not removed by
anyone, because deleting is not. -/
theorem notices_need_grants :
    state.store.Inserted (engine.execute "notice" post .anonymous state).2.store "notice" 1 ∧
    engine.Grants .anonymous "notice" .create ∧
    engine.Grants .anonymous "notice" .read ∧
    (∀ (st : Engine.State) (q : Query) (n : Nat),
      ¬ st.store.Removed (engine.execute "notice" q .anonymous st).2.store "notice" n) ∧
    ∃ fault, engine.executeValue "draft" (.obj [("type", .str "read")]) .anonymous state =
      (⟨.error fault, []⟩, state) := by
  have inserted :
      state.store.Inserted (engine.execute "notice" post .anonymous state).2.store "notice" 1 :=
    ⟨rfl, by decide +kernel⟩
  obtain ⟨changes, _, reads, _⟩ := Engine.effects_need_grants engine state "notice" .anonymous
  obtain ⟨_, _, _, refused⟩ := Engine.effects_need_grants engine state "draft" .anonymous
  refine ⟨inserted, ((changes post "notice").inserted 1 inserted).2,
    reads (.plain .read) rfl (by decide +kernel), fun st q n removed => ?_,
    (refused draft rfl rfl).2 _⟩
  obtain ⟨changed, _⟩ := Engine.effects_need_grants engine st "notice" .anonymous
  obtain ⟨_, m, found, g, mem, grants⟩ := (changed q "notice").removed n removed
  obtain rfl : notice = m := Except.ok.inj found
  obtain rfl := List.mem_singleton.1 mem
  have never : Action.delete ∉ [Action.read, Action.create] := by decide
  exact never grants

end Notices

end GuardedQuery
