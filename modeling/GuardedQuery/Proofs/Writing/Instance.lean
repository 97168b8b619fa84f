import GuardedQuery.Proofs.Scope.Confinement
import GuardedQuery.Proofs.Writing.Bulk

/-! Operations on one row. The row is found by a selection within the scope and is checked. An
update then addresses it through the index, by the text of its key, and reaches no other row. A
deletion selects again, by equality with the key, and removes every row whose key is equal. -/

namespace GuardedQuery

/-- The condition by which rows are selected that have a given key. -/
def Selection.keyed (key : Value) : Predicate := .cond (.plain keyAlias .oneOf (.arr [key]))

/-- The primary key is a column that holds one value for each row, not a list and not the keys of
rows that point back. -/
structure Model.SingleKey (m : Model) : Prop where
  plural : ∀ target, m.schema.kind? m.schema.key ≠ some (.toMany target)
  reverse : ∀ target via, m.schema.kind? m.schema.key ≠ some (.reverse target via)

theorem Model.SingleKey.of_scalar {m : Model}
    (column : m.schema.kind? m.schema.key = some .scalar) : m.SingleKey :=
  ⟨by simp [column], by simp [column]⟩

namespace Access
variable {a : Access} {m : Model} {model : String} {action : Action}

/-- Without guards nothing is allowed. -/
theorem guarded_of_requireAction (found : a.catalog.get model = .ok m)
    (allowed : a.requireAction model action = .ok ()) : m.guards ≠ [] := by
  intro unguarded
  unfold requireAction allows actions at allowed
  simp [found, Model.actions, unguarded, bind, Except.bind, pure, Except.pure, throw, throwThe,
    MonadExceptOf.throw] at allowed

end Access

namespace Store
variable {s : Store} {model : String} {m : Model} {row : Row} {key own : Value}

/-- Of a model whose primary key is a column of single values, a selection by keys accepts the rows
whose keys are equal as values to one of them, whatever their texts are. -/
theorem accepts_withKeys_iff (found : s.model model = .ok m) (single : m.SingleKey)
    (its : row.get? m.schema.key = some own) (known : own.isNull = false) (keys : List Value) :
    s.Accepts model row ((Selection.ofModel model).withKeys keys).predicate ↔
      ∃ key ∈ keys, own.equal key = true := by
  have segments : Path.segments keyAlias = [keyAlias] := by decide +kernel
  have aliased : m.isKey keyAlias = true := by simp [Model.isKey]
  have values : s.valuesAlong model row [keyAlias] = .ok [own] := by
    obtain ⟨plural, reverse⟩ := single
    unfold valuesAlong
    simp only [found, aliased, if_true, its, bind, Except.bind, pure, Except.pure]
    rfl
  have tested : (Condition.plain keyAlias .oneOf (.arr keys)).acceptsAny [own] =
      .ok (keys.any own.equal) := by
    cases same : keys.any own.equal <;>
      simp [Condition.acceptsAny, Condition.accepts, Condition.plain, Lookup.accepts, known,
        Lookup.compares, Lookup.isAmong, Value.arr?, same, bind, Except.bind, pure, Except.pure]
  rw [Selection.withKeys]
  split
  case isTrue none =>
    rw [List.isEmpty_iff.1 none]
    exact iff_of_false not_accepts_nothing (by simp)
  case isFalse =>
    rw [← List.any_eq_true]
    change s.holds model row (.cond (.plain keyAlias .oneOf (.arr keys))) = .ok true ↔ _
    simp only [holds, Condition.segments, Condition.plain, segments, values]
    exact ⟨fun h => Except.ok.inj (tested.symm.trans h), fun h => tested.trans (congrArg _ h)⟩

/-- Of a model whose primary key is a plain column, a row has a given key if the two are equal as
values, whatever their texts are. -/
theorem accepts_keyed_iff (found : s.model model = .ok m)
    (column : m.schema.kind? m.schema.key = some .scalar)
    (its : row.get? m.schema.key = some own) (known : own.isNull = false) :
    s.Accepts model row (Selection.keyed key) ↔ own.equal key = true :=
  (accepts_withKeys_iff found (.of_scalar column) its known [key]).trans (by simp)

end Store

namespace Plan
variable {p : Plan} {s after : Store} {sel : Selection} {row : Row}

/-- A stored row that an operation has found within the scope of its caller, and that allows the
action. -/
structure Located (p : Plan) (s : Store) (action : Action) (entry : Nat × Row) : Prop where
  stored : entry ∈ (s.table p.name).rows
  inScope : p.access.InScope p.model s p.name entry.2
  asked : p.access.Asked p.model s p.name entry.2 p.query
  allowed : p.requireRow entry.2 action = .ok ()

theorem only_ok (ran : (p.only sel).run s = (.ok row, after)) :
    s.Stored sel.model row ∧ s.Accepts sel.model row sel.predicate := by
  unfold only at ran
  obtain ⟨windowed, cut, ran⟩ := Script.run_check_ok ran
  obtain ⟨rows, selected, ran⟩ := Script.run_select_ok ran
  have arranged := Selection.arranges_window cut
  match rows with
  | [] | first :: second :: rest => cases ran
  | [only] =>
    cases ran
    have accepted := Store.accepts_of_mem_select selected List.mem_cons_self
    rwa [arranged.1, arranged.2] at accepted

theorem target_ok (ran : p.target.run s = (.ok row, after)) :
    s.Stored p.selection.model row ∧ s.Accepts p.selection.model row p.selection.predicate := by
  unfold target at ran
  split at ran
  · cases ran
  · exact only_ok ran

/-- What the lookup finds lies within the selection of the plan. -/
theorem lookUp_ok (ran : p.lookUp.run s = (.ok (some row), after)) :
    s.Stored p.selection.model row ∧ s.Accepts p.selection.model row p.selection.predicate := by
  unfold lookUp at ran
  obtain ⟨wanted, _, ran⟩ := Script.run_check_ok ran
  obtain ⟨windowed, cut, ran⟩ := Script.run_check_ok ran
  obtain ⟨rows, selected, ran⟩ := Script.run_select_ok ran
  have arranged := Selection.arranges_window cut
  match rows with
  | [] | first :: second :: rest => cases ran
  | [only] =>
    cases ran
    have accepted := Store.accepts_of_mem_select selected List.mem_cons_self
    rw [arranged.1, arranged.2, Selection.narrow_model, Store.accepts_narrow_iff] at accepted
    exact ⟨accepted.1, accepted.2.1⟩

theorem asks_target : p.target.Asks fun c => c.isWrite = false := by
  unfold target
  split
  · exact Script.asks_done _
  · exact p.asks_only fun _ _ => rfl

theorem asks_lookUp : p.lookUp.Asks fun c => c.isWrite = false := by
  unfold lookUp
  refine Script.asks_check fun wanted _ => Script.asks_check fun windowed _ => ?_
  refine Script.asks_bind (Script.asks_request rfl) fun rows => ?_
  match rows with
  | [] | [row] | first :: second :: rest => exact Script.asks_done _

theorem change_ok {key : Value} {data now : Row}
    (ran : (p.change key data).run s = (.ok now, after)) :
    ∃ changes, p.Sends data changes ∧ s.updateRow p.name key changes = (.ok now, after) := by
  unfold change at ran
  obtain ⟨prepared, kept, ran⟩ := Script.run_check_ok ran
  obtain ⟨changes, made, ran⟩ := Script.run_check_ok ran
  refine ⟨changes, ⟨prepared, kept, made⟩, ?_⟩
  have called := Script.run_request (.updateRow p.name key changes) s
  exact called.symm.trans ran

/-- Selected by its key, the row is removed with all rows of equal keys. -/
theorem removes_equal (indexed : s.Indexed) {row : Row} {keys : List Value}
    (done : s.begin.deleteWhere ((Selection.ofModel p.name).withKeys [p.keyOf row]) =
      (.ok keys, after)) :
    s.Removes after.commit p.name fun other =>
      s.picks p.name (Selection.keyed (p.keyOf row)) other.2 := by
  have effect := Store.deleteWhere_removes indexed.begin (Selection.plain_withKeys p.name _) done
  rw [Store.picks_begin] at effect
  exact effect.2.of_transaction

namespace Located
variable {action : Action} {entry : Nat × Row}

/-- Addressed by its own key, the row is changed and no other one. -/
theorem rewrites_alone (located : p.Located s action entry) (indexed : s.Indexed)
    (known : s.model p.name = .ok p.model) {changes : Changes} {now : Row}
    (done : s.begin.updateRow p.name (p.keyOf entry.2) changes = (.ok now, after)) :
    s.Rewrites after.commit p.name changes fun other => other.1 == entry.1 := by
  have own := get?_key indexed known (List.mem_map_of_mem located.stored)
  have effect := Store.updateRow_rewrites (s := s.begin) known indexed.begin located.stored own done
  exact effect.2.of_transaction

theorem removes_alone_iff (located : p.Located s action entry) (indexed : s.Indexed)
    (known : s.model p.name = .ok p.model) {accepted : Predicate}
    (removed : s.Removes after p.name fun other => s.picks p.name accepted other.2) :
    s.Removes after p.name (fun other => other.1 == entry.1) ↔
      ∀ other ∈ (s.table p.name).rows, s.Accepts p.name other.2 accepted ↔ other = entry := by
  refine removed.iff_congr.trans (forall₂_congr fun other mem => ?_)
  have numbered : (other.1 == entry.1) = true ↔ other = entry := by
    rw [beq_iff_eq]
    exact ⟨(indexed.table known).eq_of_number mem located.stored, congrArg Prod.fst⟩
  rw [Bool.eq_iff_iff, Store.picks_iff, numbered]

end Located

variable {w : Written}

theorem updateInstance_ok (ran : p.updateInstance.run s = (.ok w, after)) :
    ∃ row data changes now, p.target.run s = (.ok row, s) ∧ p.requireRow row .update = .ok () ∧
      p.query.dataRow = .ok data ∧ p.Sends data changes ∧
      s.updateRow p.name (p.keyOf row) changes = (.ok now, after) := by
  unfold updateInstance at ran
  obtain ⟨row, located, ran⟩ := Script.run_reads_ok asks_target ran
  obtain ⟨_, allowed, ran⟩ := Script.run_check_ok ran
  obtain ⟨data, sent, ran⟩ := Script.run_check_ok ran
  obtain ⟨now, between, changed, ran⟩ := Script.run_bind_ok ran
  obtain ⟨changes, made, done⟩ := change_ok changed
  obtain ⟨shown, _, ran⟩ := Script.run_reads_ok
    (Access.asks_present (fun _ _ _ => rfl) _ _ now) ran
  cases ran
  exact ⟨row, data, changes, now, located, allowed, sent, made, done⟩

theorem deleteInstance_ok (ran : p.deleteInstance.run s = (.ok w, after)) :
    ∃ row keys, p.target.run s = (.ok row, s) ∧ p.requireRow row .delete = .ok () ∧
      s.deleteWhere ((Selection.ofModel p.name).withKeys [p.keyOf row]) = (.ok keys, after) := by
  unfold deleteInstance at ran
  obtain ⟨row, located, ran⟩ := Script.run_reads_ok asks_target ran
  obtain ⟨_, allowed, ran⟩ := Script.run_check_ok ran
  obtain ⟨keys, between, deleted, ran⟩ := Script.run_call_ok ran
  cases ran
  refine ⟨row, keys, located, allowed, ?_⟩
  obtain ⟨outcome, left⟩ := Prod.mk.inj deleted
  exact Prod.ext (Checks.mapError_ok_iff.1 outcome) left

/-- A hit tells that nothing has been created. -/
theorem updateOrCreate_ok (ran : p.updateOrCreate.run s = (.ok w, after))
    (hit : w.response.flags.get? "created" = some (.bool false)) :
    ∃ row changes now, p.lookUp.run s = (.ok (some row), s) ∧ p.requireRow row .update = .ok () ∧
      p.Sends p.query.defaults changes ∧
      s.updateRow p.name (p.keyOf row) changes = (.ok now, after) := by
  unfold updateOrCreate at ran
  obtain ⟨found, located, ran⟩ := Script.run_reads_ok asks_lookUp ran
  cases found with
  | none =>
    obtain ⟨row, between, _, ran⟩ := Script.run_bind_ok ran
    obtain ⟨shown, last, _, ran⟩ := Script.run_bind_ok ran
    cases ran
    have created : (((Response.ofData shown .row).withFlag "created" (.bool true)).withFlag
        "updated" (.bool false)).flags.get? "created" = some (.bool true) :=
      (Entries.get?_insert_of_ne (by decide) _ _).trans (Entries.get?_insert_self _ _ _)
    rw [created] at hit
    cases hit
  | some row =>
    obtain ⟨_, allowed, ran⟩ := Script.run_check_ok ran
    obtain ⟨now, between, changed, ran⟩ := Script.run_bind_ok ran
    obtain ⟨changes, made, done⟩ := change_ok changed
    obtain ⟨shown, _, ran⟩ := Script.run_reads_ok
      (Access.asks_present (fun _ _ _ => rfl) _ _ now) ran
    cases ran
    exact ⟨row, changes, now, located, allowed, made, done⟩

end Plan

namespace Engine
variable {e : Engine} {st st' : State} {model : String} {q : Query} {request : Request}
  {r : Response} {deliveries : List Delivery}

/-- What an operation on one row found at its start is a row that its caller may act on. -/
theorem located_of_found {p : Plan}
    (plans : (e.accessOf request).Plans model q p) {row : Row} {action : Action}
    (stored : st.store.begin.Stored p.selection.model row)
    (accepted : st.store.begin.Accepts p.selection.model row p.selection.predicate)
    (allowed : p.requireRow row action = .ok ()) :
    ∃ entry : Nat × Row, entry.2 = row ∧ p.Located st.store action entry := by
  have guarded := Access.guarded_of_requireAction plans.found plans.allowed
  have about := Access.selection_model plans.found plans.selected
  rw [about] at stored accepted
  obtain ⟨entry, mem, rfl⟩ := List.mem_map.1 stored
  have holds : st.store.Accepts model entry.2 p.selection.predicate := by
    unfold Store.Accepts at accepted ⊢
    rwa [Store.holds_begin] at accepted
  obtain ⟨inside, asked⟩ := Access.inScope_of_accepts plans.found guarded plans.selected holds
  refine ⟨entry, rfl, ⟨?_, ?_, ?_, allowed⟩⟩
  · rw [plans.named]
    exact mem
  · rw [plans.accessed, plans.named]
    exact inside
  · rw [plans.accessed, plans.named, plans.asked]
    exact asked

/-- An update of one row, or an update that a lookup has led to, changes exactly the row that was
found and checked. A deletion of one row removes every stored row whose key is equal to that of the
row that was found and checked, so it removes exactly this row iff no other row has an equal key. -/
theorem instance_writes_reach_located_row (grown : st.store.Grown e.catalog)
    (executed : e.execute model q request st = (⟨.ok r, deliveries⟩, st'))
    (op : q.operation = .updateInstance ∨ q.operation = .deleteInstance ∨
      q.operation = .updateOrCreate ∧ r.flags.get? "created" = some (.bool false)) :
    ∃ p entry, (e.accessOf request).plan model q = .ok p ∧
      p.Located st.store q.operation.action entry ∧
      (q.operation ≠ .deleteInstance → ∃ data changes, p.Sends data changes ∧
        st.store.Rewrites st'.store model changes fun other => other.1 == entry.1) ∧
      (q.operation = .deleteInstance →
        st.store.Removes st'.store model (fun other =>
          st.store.picks model (Selection.keyed (p.keyOf entry.2)) other.2) ∧
        (st.store.Removes st'.store model (fun other => other.1 == entry.1) ↔
          ∀ other ∈ (st.store.table model).rows,
            st.store.Accepts model other.2 (Selection.keyed (p.keyOf entry.2)) ↔
              other = entry)) := by
  obtain ⟨p, planned, wrote⟩ := written_of_executed executed
  have plans := Access.plans_of_plan planned
  obtain rfl : model = p.name := plans.named.symm
  obtain rfl : q = p.query := plans.asked.symm
  obtain ⟨same, indexed⟩ := grown.spec
  have known : st.store.model p.name = .ok p.model := by
    rw [Store.model_ok_iff, same, ← Catalog.get_ok_iff]
    exact plans.found
  rcases op with op | op | ⟨op, hit⟩
  · obtain ⟨written, after, ran, rfl, committed⟩ := wrote p.updateInstance (by simp [handling, op])
    obtain ⟨row, data, changes, now, target, allowed, sent, made, done⟩ :=
      Plan.updateInstance_ok ran
    obtain ⟨stored, accepted⟩ := Plan.target_ok target
    obtain ⟨entry, rfl, located⟩ := located_of_found plans stored accepted allowed
    refine ⟨p, entry, planned, by rwa [op], fun _ => ?_, fun deletes => ?_⟩
    · exact ⟨data, changes, made, committed ▸ located.rewrites_alone indexed known done⟩
    · simp [op] at deletes
  · obtain ⟨written, after, ran, rfl, committed⟩ := wrote p.deleteInstance (by simp [handling, op])
    obtain ⟨row, keys, target, allowed, done⟩ := Plan.deleteInstance_ok ran
    obtain ⟨stored, accepted⟩ := Plan.target_ok target
    obtain ⟨entry, rfl, located⟩ := located_of_found plans stored accepted allowed
    refine ⟨p, entry, planned, by rwa [op], fun keeps => absurd op keeps, fun _ => ?_⟩
    have removed := Plan.removes_equal indexed done
    rw [committed] at removed
    exact ⟨removed, located.removes_alone_iff indexed known removed⟩
  · obtain ⟨written, after, ran, rfl, committed⟩ := wrote p.updateOrCreate (by simp [handling, op])
    obtain ⟨row, changes, now, target, allowed, made, done⟩ := Plan.updateOrCreate_ok ran hit
    obtain ⟨stored, accepted⟩ := Plan.lookUp_ok target
    obtain ⟨entry, rfl, located⟩ := located_of_found plans stored accepted allowed
    refine ⟨p, entry, planned, by rwa [op], fun _ => ?_, fun deletes => ?_⟩
    · exact ⟨p.query.defaults, changes, made, committed ▸ located.rewrites_alone indexed known done⟩
    · simp [op] at deletes

end Engine

namespace Items

def item : Model :=
  { Model.ofSchema ((Schema.ofKey "item" "id").withField ⟨"title", .scalar⟩) with
    guards := [Guard.allowAll] }

def engine : Engine := ⟨⟨.ofList [("item", item)]⟩, .default, none, fun _ => .ok ()⟩

def titled (key : Value) (title : String) : Row := [("id", key), ("title", .str title)]

def stored (rows : List Row) : Store :=
  ((Store.ofCatalog engine.catalog).answer (.insertMany "item" rows)).2

def state (rows : List Row) : Engine.State := ⟨stored rows, .ofSettings .default⟩

theorem stored_grown (rows : List Row) : (stored rows).Grown engine.catalog :=
  Store.Grown.new.answer _

/-- Deletes the item with the title "a". -/
def deletion : Query :=
  { Query.plain .deleteInstance with filter := .filter [("title", .str "a")] [] }

/-- The keys differ as texts and are equal as numbers. -/
def alike : List Row := [titled (.int 1) "a", titled (.num (.float 1.0)) "b"]

/-- Only the first item is found, and both are removed. -/
theorem equal_keys_are_deleted_together :
    (stored alike).Grown engine.catalog ∧ ((stored alike).table "item").values = alike ∧
    (∃ (r : Response) (deliveries : List Delivery) (after : Engine.State),
      engine.execute "item" deletion .anonymous (state alike) = (⟨.ok r, deliveries⟩, after) ∧
      (after.store.table "item").rows = []) ∧
    (stored alike).select ((Selection.ofModel "item").narrow (.eq "title" (.str "a"))) =
      .ok [titled (.int 1) "a"] := by
  have ok : (engine.execute "item" deletion .anonymous (state alike)).1.answer.isOk = true := by
    decide +kernel
  have none : ((engine.execute "item" deletion .anonymous (state alike)).2.store.table
    "item").rows.length = 0 := by decide +kernel
  obtain ⟨r, deliveries, after, executed⟩ := Engine.executed_of_isOk ok
  rw [executed] at none
  refine ⟨stored_grown alike, rfl, ⟨r, deliveries, after, executed, ?_⟩, rfl⟩
  exact List.length_eq_zero_iff.1 none

def distinct : List Row := [titled (.int 1) "a", titled (.int 2) "b"]

def plan : Plan where
  access := engine.accessOf .anonymous
  model := item
  name := "item"
  query := deletion
  selection := (item.scope .anonymous (.ofModel "item")).narrow (.eq "title" (.str "a"))
  depth := 0
  outline := .ofList [("item", .ofList ["id", "title"])]

theorem planned : (engine.accessOf .anonymous).plan "item" deletion = .ok plan := rfl

theorem keyed_distinct {entry other : Nat × Row}
    (mem : entry ∈ ((stored distinct).table "item").rows)
    (among : other ∈ ((stored distinct).table "item").rows) :
    (stored distinct).Accepts "item" other.2 (Selection.keyed (plan.keyOf entry.2)) ↔
      other = entry := by
  have rows : ((stored distinct).table "item").rows =
    [(1, titled (.int 1) "a"), (2, titled (.int 2) "b")] := rfl
  have known : (stored distinct).model "item" = .ok item := rfl
  have keyed (id : Int) (title : String) (key : Value) :
      (stored distinct).Accepts "item" (titled (.int id) title) (Selection.keyed key) ↔
        (Value.int id).equal key = true :=
    Store.accepts_keyed_iff known rfl rfl rfl
  rw [rows] at mem among
  simp only [List.mem_cons, List.not_mem_nil, or_false] at mem among
  rcases mem with rfl | rfl <;> rcases among with rfl | rfl <;> rw [keyed]
  · exact iff_of_true rfl rfl
  · exact iff_of_false (by decide) (by simp)
  · exact iff_of_false (by decide) (by simp)
  · exact iff_of_true rfl rfl

/-- Where keys differ as values, the item that is found is removed and no other one. -/
theorem distinct_item_is_deleted_alone :
    ∃ (r : Response) (deliveries : List Delivery) (after : Engine.State) (entry : Nat × Row),
      engine.execute "item" deletion .anonymous (state distinct) = (⟨.ok r, deliveries⟩, after) ∧
      plan.Located (stored distinct) .delete entry ∧
      (stored distinct).Removes after.store "item" fun other => other.1 == entry.1 := by
  have ok : (engine.execute "item" deletion .anonymous (state distinct)).1.answer.isOk = true := by
    decide +kernel
  obtain ⟨r, deliveries, after, executed⟩ := Engine.executed_of_isOk ok
  obtain ⟨p, entry, planned', located, _, deleted⟩ :=
    Engine.instance_writes_reach_located_row (stored_grown distinct) executed (.inr (.inl rfl))
  obtain rfl : plan = p := Except.ok.inj (planned.symm.trans planned')
  obtain ⟨_, alone⟩ := deleted rfl
  refine ⟨r, deliveries, after, entry, executed, located, alone.2 fun other among => ?_⟩
  exact keyed_distinct located.stored among

end Items

end GuardedQuery
