import GuardedQuery.Proofs.Engine.Transactions
import GuardedQuery.Proofs.Scope.Composition
import Mathlib.Data.List.Permutation

/-! Updating and deleting all selected rows. Rows are checked as they are selected and are written
through a second selection by their keys. Both see the same store, so the rows that are written are
the rows that were checked. -/

namespace GuardedQuery

namespace Access
variable {a : Access} {m : Model} {model : String} {q : Query} {sel : Selection} {action : Action}

theorem requireRow_ok_iff (found : a.catalog.get model = .ok m) {row : Row} :
    a.requireRow model row action = .ok () ↔ m.allowsRow a.request action row = true := by
  unfold requireRow
  rw [found]
  cases h : m.allowsRow a.request action row <;>
    simp [bind, Except.bind, pure, Except.pure, throw, throwThe, MonadExceptOf.throw, h]

/-- By the usual rule, rows that may be acted on together may be acted on one by one. -/
theorem requireRow_of_bulk (found : a.catalog.get model = .ok m)
    (usual : ∀ g ∈ m.guards, g.allowsBulk = Guard.eachRow g.rowActions) {rows : List Row}
    (allowed : a.requireBulk model rows action = .ok ()) :
    ∀ row ∈ rows, a.requireRow model row action = .ok () := by
  match rows with
  | [] => simp
  | [row] =>
    intro other mem
    obtain rfl := List.mem_singleton.1 mem
    exact allowed
  | first :: second :: rest =>
    have together : m.allowsBulk a.request action (first :: second :: rest) = true := by
      unfold requireBulk at allowed
      rw [found] at allowed
      cases h : m.allowsBulk a.request action (first :: second :: rest) <;>
        simp_all [bind, Except.bind, throw, throwThe, MonadExceptOf.throw]
    obtain ⟨g, mem, each⟩ := List.any_eq_true.1 together
    rw [usual g mem] at each
    intro row among
    have one := List.all_eq_true.1 each row among
    exact (requireRow_ok_iff found).2 (List.any_eq_true.2 ⟨g, mem, one⟩)

end Access

namespace Plan
variable {p : Plan} {s after : Store} {w : Written}

/-- The rows that a bulk operation is about: all stored rows that the selection of the plan accepts,
in their order, and each of them allows the action by itself. -/
structure Targets (p : Plan) (s : Store) (action : Action) (rows : List Row) : Prop where
  selected : s.select p.selection.whole = .ok rows
  exact : rows = (s.table p.name).values.filter (s.picks p.name p.selection.predicate)
  allowed : ∀ row ∈ rows, p.requireRow row action = .ok ()

/-- The changes that sent data comes to, prepared as far as the caller may write it. -/
def Sends (p : Plan) (data : Row) (changes : Changes) : Prop :=
  ∃ prepared, p.access.prepare p.name data .update = .ok prepared ∧
    p.access.changes p.name prepared = .ok changes

theorem targets_of_select (about : p.selection.model = p.name)
    (found : p.access.catalog.get p.name = .ok p.model)
    (usual : ∀ g ∈ p.model.guards, g.allowsBulk = Guard.eachRow g.rowActions) {action : Action}
    {rows : List Row} (selected : s.begin.select p.selection.whole = .ok rows)
    (allowed : p.access.requireBulk p.name rows action = .ok ()) : p.Targets s action rows := by
  rw [Store.select_begin] at selected
  refine ⟨selected, ?_, Access.requireRow_of_bulk found usual allowed⟩
  have all := Store.select_plain p.selection.plain_whole selected
  rwa [Selection.whole_model, about] at all

/-- An update selects and checks, writes, selects again by the keys that it has written, and shows
what it finds. -/
theorem update_run (ran : p.update.run s = (.ok w, after)) :
    ∃ data changes rows keys found names, p.query.dataRow = .ok data ∧ p.Sends data changes ∧
      s.select p.selection.whole = .ok rows ∧
      p.access.requireBulk p.name rows .update = .ok () ∧
      s.updateWhere p.selection.whole changes = (.ok keys, after) ∧
      after.select ((Selection.ofModel p.name).withKeys keys) = .ok found ∧
      (p.access.presentAll (p.updateOutline names) 0 p.name found).run after =
        (.ok w.response.data, after) ∧
      w.response.flags.get? "updated_count" = some (.int keys.length) := by
  unfold update at ran
  obtain ⟨data, sent, ran⟩ := Script.run_check_ok ran
  obtain ⟨prepared, kept, ran⟩ := Script.run_check_ok ran
  obtain ⟨changes, made, ran⟩ := Script.run_check_ok ran
  obtain ⟨rows, selected, ran⟩ := Script.run_select_ok ran
  obtain ⟨_, allowed, ran⟩ := Script.run_check_ok ran
  obtain ⟨keys, between, written, ran⟩ := Script.run_call_ok ran
  obtain ⟨found, again, ran⟩ := Script.run_select_ok ran
  obtain ⟨shown, presented, ran⟩ := Script.run_reads_ok
    (Access.asks_presentAll (fun _ _ _ => rfl) _ _ found) ran
  cases ran
  refine ⟨data, changes, rows, keys, found, prepared.names, sent, ⟨prepared, kept, made⟩, selected,
    allowed, written, again, presented, ?_⟩
  exact Entries.get?_insert_self _ _ _

theorem update_ok (ran : p.update.run s = (.ok w, after)) :
    ∃ data changes rows keys, p.query.dataRow = .ok data ∧ p.Sends data changes ∧
      s.select p.selection.whole = .ok rows ∧
      p.access.requireBulk p.name rows .update = .ok () ∧
      s.updateWhere p.selection.whole changes = (.ok keys, after) ∧
      w.response.flags.get? "updated_count" = some (.int keys.length) := by
  obtain ⟨data, changes, rows, keys, _, _, sent, made, selected, allowed, written, _, _, count⟩ :=
    update_run ran
  exact ⟨data, changes, rows, keys, sent, made, selected, allowed, written, count⟩

theorem delete_ok (ran : p.delete.run s = (.ok w, after)) :
    ∃ rows keys, s.select p.selection.whole = .ok rows ∧
      p.access.requireBulk p.name rows .delete = .ok () ∧
      s.deleteWhere p.selection.whole = (.ok keys, after) ∧
      w.response.flags.get? "deleted_count" = some (.int keys.length) ∧
      w.response.flags.get? "rows_deleted" =
        some (.arr (keys.map fun key => .obj [(p.keyName, key)])) := by
  unfold delete at ran
  obtain ⟨rows, selected, ran⟩ := Script.run_select_ok ran
  obtain ⟨_, allowed, ran⟩ := Script.run_check_ok ran
  obtain ⟨keys, between, written, ran⟩ := Script.run_call_ok ran
  have settled : (((s.deleteWhere p.selection.whole).1.mapError Store.Error.toError,
    (s.deleteWhere p.selection.whole).2) : Except Error (List Value) × Store) =
      (.ok keys, between) := written
  cases ran
  refine ⟨rows, keys, selected, allowed, ?_, ?_, Entries.get?_insert_self _ _ _⟩
  · obtain ⟨outcome, left⟩ := Prod.mk.inj settled
    exact Prod.ext (Checks.mapError_ok_iff.1 outcome) left
  · exact (Entries.get?_insert_of_ne (by decide) _ _).trans (Entries.get?_insert_self _ _ _)

theorem get?_key (indexed : s.Indexed) (found : s.model p.name = .ok p.model) {row : Row}
    (stored : s.Stored p.name row) : row.get? p.model.schema.key = some (p.keyOf row) := by
  obtain ⟨entry, among, rfl⟩ := List.mem_map.1 stored
  obtain ⟨key, own, _⟩ := (indexed.table found).keyed entry among
  rw [keyOf, keyName, own, Option.getD_some]

theorem rows_of_selected (about : p.selection.model = p.name) {rows : List Row}
    (selected : s.select p.selection.whole = .ok rows) :
    rows = (s.pickedEntries p.name p.selection.predicate).map Prod.snd := by
  have all := Store.select_entries p.selection.plain_whole selected
  rwa [Selection.whole_model, about] at all

/-- The write selects again, and finds the keys of the rows that were selected before. -/
theorem keys_of_selected (about : p.selection.model = p.name) (indexed : s.Indexed)
    (found : s.model p.name = .ok p.model) {rows : List Row} {keys : List Value}
    (selected : s.select p.selection.whole = .ok rows)
    (chosen : s.begin.selectKeys p.selection.whole = .ok keys) : keys = rows.map p.keyOf := by
  obtain ⟨m, again, known, reselected, rfl, _⟩ :=
    Store.selectKeys_spec p.selection.plain_whole chosen
  rw [Store.select_begin, selected] at reselected
  obtain rfl : rows = again := Except.ok.inj reselected
  have same : s.model p.name = .ok m := by rwa [Selection.whole_model, about] at known
  obtain rfl : p.model = m := Except.ok.inj (found.symm.trans same)
  have keyed : ∀ row ∈ rows, row.get? p.model.schema.key = some (p.keyOf row) := by
    intro row mem
    rw [rows_of_selected about selected] at mem
    obtain ⟨entry, picked, rfl⟩ := List.mem_map.1 mem
    exact get?_key indexed found (List.mem_map_of_mem (Store.pickedEntries_inside entry picked))
  unfold Store.keysOf
  rw [← List.filterMap_eq_map]
  exact List.filterMap_congr keyed

end Plan

namespace Engine
variable {e : Engine} {st st' : State} {model : String} {q : Query} {request : Request}
  {r : Response} {deliveries : List Delivery} {m : Model}

/-- After a bulk update or deletion, the rows that have been changed or removed are exactly those
that the selection of the request accepted before; each of them allows the action by itself, nothing
else in the store has changed, and the answer counts and names these rows. -/
theorem bulk_writes_reach_selected_rows (grown : st.store.Grown e.catalog)
    (found : e.catalog.get model = .ok m)
    (usual : ∀ g ∈ m.guards, g.allowsBulk = Guard.eachRow g.rowActions)
    (executed : e.execute model q request st = (⟨.ok r, deliveries⟩, st')) :
    ∃ p, (e.accessOf request).plan model q = .ok p ∧
      (q.operation = .update → ∃ rows data changes, p.Targets st.store .update rows ∧
        q.dataRow = .ok data ∧ p.Sends data changes ∧
        st.store.Rewrites st'.store model changes
          (fun entry => st.store.picks model p.selection.predicate entry.2) ∧
        r.flags.get? "updated_count" = some (.int rows.length)) ∧
      (q.operation = .delete → ∃ rows, p.Targets st.store .delete rows ∧
        st.store.Removes st'.store model
          (fun entry => st.store.picks model p.selection.predicate entry.2) ∧
        r.flags.get? "deleted_count" = some (.int rows.length) ∧
        r.flags.get? "rows_deleted" =
          some (.arr (rows.map fun row => .obj [(m.schema.key, p.keyOf row)]))) := by
  obtain ⟨p, planned, wrote⟩ := written_of_executed executed
  have plans := Access.plans_of_plan planned
  obtain rfl : model = p.name := plans.named.symm
  obtain rfl : m = p.model := Except.ok.inj (found.symm.trans plans.found)
  obtain rfl : q = p.query := plans.asked.symm
  have known : p.access.catalog.get p.name = .ok p.model := by rw [plans.accessed]; exact found
  have about : p.selection.model = p.name := Access.selection_model plans.found plans.selected
  obtain ⟨same, indexed⟩ := grown.spec
  have model : st.store.model p.name = .ok p.model := by
    rw [Store.model_ok_iff, same, ← Catalog.get_ok_iff, found]
  refine ⟨p, planned, fun op => ?_, fun op => ?_⟩
  · obtain ⟨written, after, ran, rfl, committed⟩ := wrote p.update (by simp [handling, op])
    obtain ⟨data, changes, rows, keys, sent, made, selected, allowed, updated, count⟩ :=
      Plan.update_ok ran
    have targets := Plan.targets_of_select about known usual selected allowed
    obtain ⟨chosen, effect⟩ :=
      Store.updateWhere_rewrites indexed.begin p.selection.plain_whole updated
    refine ⟨rows, data, changes, targets, sent, made, ?_, ?_⟩
    · rw [Selection.whole_model, Selection.whole_predicate, about, Store.picks_begin] at effect
      rw [← committed]
      exact effect.of_transaction
    · rw [count, Plan.keys_of_selected about indexed model targets.selected chosen, List.length_map]
  · obtain ⟨written, after, ran, rfl, committed⟩ := wrote p.delete (by simp [handling, op])
    obtain ⟨rows, keys, selected, allowed, deleted, count, named⟩ := Plan.delete_ok ran
    have targets := Plan.targets_of_select about known usual selected allowed
    obtain ⟨chosen, effect⟩ :=
      Store.deleteWhere_removes indexed.begin p.selection.plain_whole deleted
    have written := Plan.keys_of_selected about indexed model targets.selected chosen
    refine ⟨rows, targets, ?_, ?_, ?_⟩
    · rw [Selection.whole_model, Selection.whole_predicate, about, Store.picks_begin] at effect
      rw [← committed]
      exact effect.of_transaction
    · rw [count, written, List.length_map]
    · rw [named, written, List.map_map]
      rfl

end Engine

namespace Tasks

/-- Tasks, of which everyone may see and change those that are shared. -/
def task : Model :=
  { Model.ofSchema (((Schema.ofKey "task" "id").withField ⟨"shared", .scalar⟩).withField
      ⟨"done", .scalar⟩) with
    guards := [{ Guard.allowAll with admitted := fun _ => .eq "shared" (.bool true) }] }

def engine : Engine := ⟨⟨.ofList [("task", task)]⟩, .default, none, fun _ => .ok ()⟩

def row (id : Int) (shared done : Bool) : Row :=
  [("done", .bool done), ("id", .int id), ("shared", .bool shared)]

def tasks : Store :=
  ((Store.ofCatalog engine.catalog).answer
    (.insertMany "task" [row 1 true false, row 2 false false, row 3 true false])).2

theorem tasks_grown : tasks.Grown engine.catalog := Store.Grown.new.answer _

def state : Engine.State := ⟨tasks, .ofSettings .default⟩

def finish : Query := { Query.plain .update with data := some (.obj [("done", .bool true)]) }

def plan : Plan where
  access := engine.accessOf .anonymous
  model := task
  name := "task"
  query := finish
  selection := (task.scope .anonymous (.ofModel "task")).narrow .all
  depth := 0
  outline := .ofList [("task", .ofList ["done", "id", "shared"])]

theorem planned : (engine.accessOf .anonymous).plan "task" finish = .ok plan := rfl

theorem changes_of_sends {changes : Changes}
    (made : plan.Sends [("done", .bool true)] changes) :
    changes = [("done", .set (.bool true))] := by
  obtain ⟨prepared, kept, made⟩ := made
  have whole : plan.access.prepare "task" [("done", .bool true)] .update =
    .ok [("done", .bool true)] := rfl
  have set : plan.access.changes "task" [("done", .bool true)] =
    .ok [("done", .set (.bool true))] := rfl
  obtain rfl := Except.ok.inj (whole.symm.trans kept)
  exact Except.ok.inj (made.symm.trans set)

/-- Both shared tasks are done afterwards, and the other one is as it was. -/
theorem shared_tasks_are_done : ∃ (r : Response) (deliveries : List Delivery) (after : Engine.State),
    engine.execute "task" finish .anonymous state = (⟨.ok r, deliveries⟩, after) ∧
    plan.Targets tasks .update [row 1 true false, row 3 true false] ∧
    (after.store.table "task").rows =
      [(1, row 1 true true), (2, row 2 false false), (3, row 3 true true)] ∧
    r.flags.get? "updated_count" = some (.int 2) := by
  have ok : (engine.execute "task" finish .anonymous state).1.answer.isOk = true := by
    decide +kernel
  obtain ⟨r, deliveries, after, executed⟩ := Engine.executed_of_isOk ok
  have usual : ∀ g ∈ task.guards, g.allowsBulk = Guard.eachRow g.rowActions := by
    simp [task, Guard.allowAll, Guard.gate]
  obtain ⟨p, planned', updates, _⟩ :=
    Engine.bulk_writes_reach_selected_rows tasks_grown (m := task) rfl usual executed
  obtain rfl : plan = p := Except.ok.inj (planned.symm.trans planned')
  obtain ⟨rows, data, changes, targets, sent, made, effect, count⟩ := updates rfl
  have selected : tasks.select plan.selection.whole =
    .ok [row 1 true false, row 3 true false] := by cbv
  obtain rfl := Except.ok.inj (selected.symm.trans targets.selected)
  obtain rfl := Except.ok.inj sent
  obtain rfl := changes_of_sends made
  have stored : (state.store.table "task").rows =
    [(1, row 1 true false), (2, row 2 false false), (3, row 3 true false)] := by cbv
  have first : state.store.rewritten "task" [("done", .set (.bool true))] (row 1 true false) =
    row 1 true true := by cbv
  have third : state.store.rewritten "task" [("done", .set (.bool true))] (row 3 true false) =
    row 3 true true := by cbv
  have picked (id : Int) (shared : Bool) :
      state.store.picks "task" plan.selection.predicate (row id shared false) = shared := by
    cases shared <;> cbv
  refine ⟨r, deliveries, after, executed, targets, ?_, count⟩
  rw [effect.rows, stored]
  simp [picked, first, third]

end Tasks

end GuardedQuery
