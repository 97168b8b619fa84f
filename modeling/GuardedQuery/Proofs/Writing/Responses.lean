import GuardedQuery.Proofs.Engine.Displays
import GuardedQuery.Proofs.Writing.Instance

/-! What an update answers with. The updated rows are read again by their keys, without the scope of
the request, and keys are compared as values. So the answer shows every row whose key is equal to
that of an updated row, in scope or not. -/

namespace GuardedQuery

section
variable {α β : Type} {f : α → β} {xs : List α}

theorem mem_map_filter_iff (inj : ∀ a ∈ xs, ∀ b ∈ xs, f a = f b → a = b) (p : α → Bool) {x : α}
    (mem : x ∈ xs) : f x ∈ (xs.filter p).map f ↔ p x = true := by
  constructor
  · intro image
    obtain ⟨y, kept, same⟩ := List.mem_map.1 image
    obtain ⟨among, on⟩ := List.mem_filter.1 kept
    rwa [inj x mem y among same.symm]
  · intro on
    exact List.mem_map_of_mem (List.mem_filter.2 ⟨mem, on⟩)

/-- Two selections from a list have the same images only if they are the same. -/
theorem map_filter_eq_iff (inj : ∀ a ∈ xs, ∀ b ∈ xs, f a = f b → a = b) (p q : α → Bool) :
    (xs.filter p).map f = (xs.filter q).map f ↔ ∀ x ∈ xs, p x = q x := by
  constructor
  · intro same x mem
    rw [Bool.eq_iff_iff, ← mem_map_filter_iff inj p mem, ← mem_map_filter_iff inj q mem, same]
  · intro same
    rw [List.filter_congr same]

end

namespace Store
variable {s after : Store} {model : String} {m : Model} {p : Predicate}

theorem picks_commit : s.commit.picks model p = s.picks model p := by
  rw [← picks_begin (s := s.commit), ← picks_begin (s := s)]
  rfl

namespace Rewrites
variable {changes : Changes} {touched : Nat × Row → Bool}

/-- The row that stands in the place of an entry after the changes. -/
def now (s : Store) (model : String) (changes : Changes) (touched : Nat × Row → Bool)
    (entry : Nat × Row) : Row :=
  if touched entry then s.rewritten model changes entry.2 else entry.2

theorem values (h : s.Rewrites after model changes touched) :
    (after.table model).values = (s.table model).rows.map (now s model changes touched) := by
  rw [Table.values, h.rows, List.map_map]
  refine List.map_congr_left fun entry _ => ?_
  simp only [Function.comp, now]
  split <;> rfl

/-- Rows keep their keys. -/
theorem now_key (found : s.model model = .ok m) (entry : Nat × Row) :
    (now s model changes touched entry).get? m.schema.key = entry.2.get? m.schema.key := by
  unfold now rewritten
  split
  · split
    · rename_i made
      exact changed_key found made
    · rfl
  · rfl

theorem now_inj (found : s.model model = .ok m) (indexed : s.Indexed) :
    ∀ a ∈ (s.table model).rows, ∀ b ∈ (s.table model).rows,
      now s model changes touched a = now s model changes touched b → a = b := by
  intro a ha b hb same
  refine (indexed.table found).eq_of_key ha hb ?_
  rw [← now_key found a, ← now_key found b, same]

/-- The rows that the changes have been applied to, as they stand afterwards. -/
theorem map_rewritten :
    ((s.table model).rows.filter touched).map (now s model changes touched) =
      (((s.table model).rows.filter touched).map Prod.snd).map (s.rewritten model changes) := by
  rw [List.map_map]
  refine List.map_congr_left fun entry mem => ?_
  simp [now, (List.mem_filter.1 mem).2]

end Rewrites

end Store

namespace Plan
variable {p : Plan} {s after : Store} {w : Written}

/-- The selection by which rows are read again once they have been written. -/
def reread (p : Plan) (rows : List Row) : Selection :=
  (Selection.ofModel p.name).withKeys (rows.map p.keyOf)

/-- What is shown of rows that have been changed: each of them as it is now, in the order in which
they were selected, and nothing else. -/
def ShowsExactly (p : Plan) (s : Store) (changes : Changes) (rows shown : List Row) : Prop :=
  shown = rows.map (s.rewritten p.name changes)

/-- What an update does and shows. The rows in scope are changed, and of the rows that are stored
then, those are shown that the keys of the changed rows select. -/
structure Refreshes (p : Plan) (s after : Store) (changes : Changes) (rows shown : List Row) :
    Prop where
  inScope : rows = (s.pickedEntries p.name p.selection.predicate).map Prod.snd
  written : s.Rewrites after p.name changes fun entry => s.picks p.name p.selection.predicate entry.2
  shown : shown = (after.table p.name).values.filter
    (after.picks p.name (p.reread rows).predicate)

/-- What becomes of a stored row by an update. -/
def place (p : Plan) (s : Store) (changes : Changes) : Nat × Row → Row :=
  Store.Rewrites.now s p.name changes fun entry => s.picks p.name p.selection.predicate entry.2

namespace Refreshes
variable {changes : Changes} {rows shown : List Row}

theorem shown_eq (h : p.Refreshes s after changes rows shown) :
    shown = ((s.table p.name).rows.filter fun entry =>
      after.picks p.name (p.reread rows).predicate (p.place s changes entry)).map
        (p.place s changes) := by
  rw [h.shown, h.written.values, List.filter_map]
  rfl

theorem mem_rows_iff (h : p.Refreshes s after changes rows shown) {entry : Nat × Row}
    (mem : entry ∈ (s.table p.name).rows) :
    entry.2 ∈ rows ↔ s.picks p.name p.selection.predicate entry.2 = true := by
  rw [h.inScope, List.mem_map]
  constructor
  · rintro ⟨other, among, same⟩
    rw [← same]
    exact (List.mem_filter.1 among).2
  · intro picked
    exact ⟨entry, List.mem_filter.2 ⟨mem, picked⟩, rfl⟩

theorem map_rewritten (h : p.Refreshes s after changes rows shown) :
    rows.map (s.rewritten p.name changes) =
      (s.pickedEntries p.name p.selection.predicate).map (p.place s changes) := by
  rw [h.inScope]
  exact Store.Rewrites.map_rewritten.symm

variable (found : s.model p.name = .ok p.model) (indexed : s.Indexed)
include found indexed

/-- Exactly the changed rows are shown iff their keys select them and no other rows. -/
theorem exactly_iff (h : p.Refreshes s after changes rows shown) :
    p.ShowsExactly s changes rows shown ↔ ∀ entry ∈ (s.table p.name).rows,
      after.picks p.name (p.reread rows).predicate (p.place s changes entry) =
        s.picks p.name p.selection.predicate entry.2 := by
  unfold ShowsExactly
  rw [h.shown_eq, h.map_rewritten]
  exact map_filter_eq_iff (Store.Rewrites.now_inj found indexed) _ _

theorem exactly_iff_accepts (h : p.Refreshes s after changes rows shown) :
    p.ShowsExactly s changes rows shown ↔ ∀ row ∈ (after.table p.name).values,
      after.Accepts p.name row (p.reread rows).predicate ↔
        row ∈ rows.map (s.rewritten p.name changes) := by
  rw [h.exactly_iff found indexed, h.written.values, List.forall_mem_map]
  refine forall₂_congr fun entry mem => ?_
  have written : p.place s changes entry ∈
      (s.pickedEntries p.name p.selection.predicate).map (p.place s changes) ↔
        s.picks p.name p.selection.predicate entry.2 = true :=
    mem_map_filter_iff (Store.Rewrites.now_inj found indexed) _ mem
  rw [h.map_rewritten, Bool.eq_iff_iff, Store.picks_iff]
  exact iff_congr .rfl written.symm

/-- Where each row has one key, this is the case iff no key of a changed row is equal to that of
another row. -/
theorem exactly_iff_equal (h : p.Refreshes s after changes rows shown)
    (known : after.model p.name = .ok p.model) (single : p.model.SingleKey) :
    p.ShowsExactly s changes rows shown ↔ ∀ row ∈ (s.table p.name).values,
      (∃ other ∈ rows, (p.keyOf row).equal (p.keyOf other) = true) ↔ row ∈ rows := by
  rw [h.exactly_iff found indexed, Store.Table.values, List.forall_mem_map]
  refine forall₂_congr fun entry mem => ?_
  obtain ⟨own, its, nonnull, _⟩ := (indexed.table found).keyed entry mem
  have kept : (p.place s changes entry).get? p.model.schema.key = some own :=
    (Store.Rewrites.now_key found entry).trans its
  have key : p.keyOf entry.2 = own := by simp [keyOf, keyName, its]
  have selects := Store.accepts_withKeys_iff known single kept nonnull (rows.map p.keyOf)
  rw [Bool.eq_iff_iff, Store.picks_iff, ← h.mem_rows_iff mem, key]
  refine iff_congr (selects.trans ?_) .rfl
  simp

end Refreshes

/-- An update that has run shows what it has found again. -/
theorem update_refreshes (about : p.selection.model = p.name) (indexed : s.Indexed)
    (found : s.model p.name = .ok p.model) (ran : p.update.run s.begin = (.ok w, after)) :
    ∃ changes rows, ∃ d : Display, (∃ data, p.query.dataRow = .ok data ∧ p.Sends data changes) ∧
      p.Refreshes s after.commit changes rows d.rows ∧ d.Of p after ∧
      w.response.data = .arr (d.cards.map Card.value) ∧
      w.response.flags.get? "updated_count" = some (.int rows.length) := by
  obtain ⟨data, changes, rows, keys, again, names, sent, made, selected, _, updated, found_again,
    shown, count⟩ := update_run ran
  rw [Store.select_begin] at selected
  obtain ⟨chosen, effect⟩ :=
    Store.updateWhere_rewrites indexed.begin p.selection.plain_whole updated
  rw [Selection.whole_model, Selection.whole_predicate, about, Store.picks_begin] at effect
  obtain rfl := keys_of_selected about indexed found selected chosen
  obtain ⟨_, list, made_list, listed⟩ := (Access.yields_presentAll 0 p.name again).ok shown
  obtain ⟨cards, made_cards, same⟩ := Checks.bind_ok_iff.1 made_list
  rw [← Checks.pure_ok_iff.1 same, Card.value_list] at listed
  let d : Display :=
    ⟨p.access, after, p.updateOutline names, 0, p.name, again, cards, made_cards⟩
  have shows : p.Refreshes s after.commit changes rows d.rows := by
    refine ⟨rows_of_selected about selected, effect.of_transaction, ?_⟩
    have plain := Store.select_plain (Selection.plain_withKeys p.name _) found_again
    rw [Selection.withKeys_model] at plain
    rw [Store.picks_commit]
    exact plain
  refine ⟨changes, rows, d, ⟨data, sent, made⟩, shows, ⟨rfl, rfl, rfl, .inl rfl⟩, listed.symm, ?_⟩
  rw [count, List.length_map]

end Plan

namespace Engine
variable {e : Engine} {st st' : State} {model : String} {q : Query} {request : Request}
  {r : Response} {deliveries : List Delivery}

/-- An update changes the rows in its scope and counts them. Its answer shows the rows that are
selected by the keys of these, one object for each in the order of the table. So it shows the
changed rows and nothing else iff their keys select no other row; where each row has one key, that
is iff no row out of scope has a key that is equal to one of theirs. -/
theorem updates_show_rows_of_their_keys (grown : st.store.Grown e.catalog)
    (executed : e.execute model q request st = (⟨.ok r, deliveries⟩, st'))
    (op : q.operation = .update) :
    ∃ p changes rows, ∃ d : Display, ∃ s, (e.accessOf request).plan model q = .ok p ∧
      (∃ data, q.dataRow = .ok data ∧ p.Sends data changes) ∧
      r.flags.get? "updated_count" = some (.int rows.length) ∧
      s.commit = st'.store ∧ d.Of p s ∧ r.data = .arr (d.cards.map Card.value) ∧
      p.Refreshes st.store st'.store changes rows d.rows ∧
      (p.ShowsExactly st.store changes rows d.rows ↔
        ∀ row ∈ (st'.store.table model).values,
          st'.store.Accepts model row (p.reread rows).predicate ↔
            row ∈ rows.map (st.store.rewritten model changes)) ∧
      (p.model.SingleKey → (p.ShowsExactly st.store changes rows d.rows ↔
        ∀ row ∈ (st.store.table model).values,
          (∃ other ∈ rows, (p.keyOf row).equal (p.keyOf other) = true) ↔ row ∈ rows)) := by
  obtain ⟨p, planned, wrote⟩ := written_of_executed executed
  have plans := Access.plans_of_plan planned
  obtain rfl : model = p.name := plans.named.symm
  obtain rfl : q = p.query := plans.asked.symm
  have about : p.selection.model = p.name := Access.selection_model plans.found plans.selected
  obtain ⟨same, indexed⟩ := grown.spec
  have found : st.store.model p.name = .ok p.model := by
    rw [Store.model_ok_iff, same, ← Catalog.get_ok_iff]
    exact plans.found
  obtain ⟨written, after, ran, rfl, committed⟩ := wrote p.update (by simp [handling, op])
  have known : st'.store.model p.name = .ok p.model := by
    have grown' : (e.execute p.name p.query request st).2.store.Grown e.catalog :=
      grown_execute grown
    rw [executed] at grown'
    rw [Store.model_ok_iff, grown'.spec.1, ← Catalog.get_ok_iff]
    exact plans.found
  obtain ⟨changes, rows, d, sent, refreshes, of, data, count⟩ :=
    Plan.update_refreshes about indexed found ran
  rw [committed] at refreshes
  exact ⟨p, changes, rows, d, after, planned, sent, count, committed, of, data, refreshes,
    refreshes.exactly_iff_accepts found indexed, refreshes.exactly_iff_equal found indexed known⟩

end Engine

namespace Tasks

/-- Both shared tasks are shown as they are after the update. -/
theorem finished_tasks_are_shown :
    ∃ (r : Response) (deliveries : List Delivery) (after : Engine.State) (d : Display),
      engine.execute "task" finish .anonymous state = (⟨.ok r, deliveries⟩, after) ∧
      r.flags.get? "updated_count" = some (.int 2) ∧ r.data = .arr (d.cards.map Card.value) ∧
      d.rows = [row 1 true true, row 3 true true] := by
  have ok : (engine.execute "task" finish .anonymous state).1.answer.isOk = true := by
    decide +kernel
  obtain ⟨r, deliveries, after, executed⟩ := Engine.executed_of_isOk ok
  obtain ⟨p, changes, rows, d, s, planned', ⟨data, sent, made⟩, count, _, _, shows, refreshes, _,
    exactly⟩ := Engine.updates_show_rows_of_their_keys tasks_grown executed rfl
  obtain rfl : plan = p := Except.ok.inj (planned.symm.trans planned')
  obtain rfl := Except.ok.inj sent
  obtain rfl := changes_of_sends made
  have selected : tasks.select plan.selection.whole =
    .ok [row 1 true false, row 3 true false] := by cbv
  have chosen : rows = [row 1 true false, row 3 true false] :=
    refreshes.inScope.trans (Plan.rows_of_selected rfl selected).symm
  have stored : (state.store.table "task").values =
    [row 1 true false, row 2 false false, row 3 true false] := by cbv
  have key (id : Int) (shared done : Bool) : plan.keyOf (row id shared done) = .int id := rfl
  have distinct : plan.ShowsExactly tasks [("done", .set (.bool true))] rows d.rows := by
    refine (exactly (.of_scalar rfl)).2 ?_
    rw [stored, chosen]
    simp only [List.forall_mem_cons, List.exists_mem_cons_iff, key]
    simp [row, Value.int, Value.equal, Number.equal, Number.word?, fitsWord]
  have first : tasks.rewritten "task" [("done", .set (.bool true))] (row 1 true false) =
    row 1 true true := by cbv
  have third : tasks.rewritten "task" [("done", .set (.bool true))] (row 3 true false) =
    row 3 true true := by cbv
  have shown : d.rows = rows.map (tasks.rewritten "task" [("done", .set (.bool true))]) := distinct
  refine ⟨r, deliveries, after, d, executed, ?_, shows, ?_⟩
  · rw [count, chosen]
    rfl
  · rw [shown, chosen, List.map_cons, List.map_cons, first, third, List.map_nil]

/-- Two tasks whose keys differ as texts and are equal as numbers; only the first one is shared. -/
def alike : List Row :=
  [row 1 true false, [("done", .bool false), ("id", .num (.float 1.0)), ("shared", .bool false)]]

def alikeTasks : Store := ((Store.ofCatalog engine.catalog).answer (.insertMany "task" alike)).2

/-- The texts of the keys that an answer shows. -/
def shownKeys (r : Response) : List String :=
  (r.data.arr?.getD []).filterMap fun row => (row.field? "id").map Value.text

/-- One task is updated, and the answer shows the other one as well. -/
theorem unshared_task_is_shown :
    alikeTasks.Grown engine.catalog ∧ (alikeTasks.table "task").values = alike ∧
    alikeTasks.select plan.selection.whole = .ok [row 1 true false] ∧
    ∃ (r : Response) (deliveries : List Delivery) (after : Engine.State),
      engine.execute "task" finish .anonymous ⟨alikeTasks, .ofSettings .default⟩ =
        (⟨.ok r, deliveries⟩, after) ∧
      (r.flags.get? "updated_count").bind Value.word? = some 1 ∧ shownKeys r = ["1", "1.0"] := by
  have facts : ((engine.execute "task" finish .anonymous
      ⟨alikeTasks, .ofSettings .default⟩).1.answer.toOption.map fun r =>
        ((r.flags.get? "updated_count").bind Value.word?, shownKeys r)) =
      some (some 1, ["1", "1.0"]) := by decide +kernel
  have ok : (engine.execute "task" finish .anonymous
      ⟨alikeTasks, .ofSettings .default⟩).1.answer.isOk = true := by decide +kernel
  obtain ⟨r, deliveries, after, executed⟩ := Engine.executed_of_isOk ok
  rw [executed] at facts
  obtain ⟨count, keys⟩ := Prod.mk.inj (Option.some.inj facts)
  exact ⟨Store.Grown.new.answer _, rfl, rfl, r, deliveries, after, executed, count, keys⟩

end Tasks

end GuardedQuery
