import GuardedQuery.Proofs.Catalog
import GuardedQuery.Proofs.Store.Rollback
import GuardedQuery.Proofs.Writing.Columns

/-! Stored rows are what their schema declares: they have columns only, and a primary key, which
stays the same as long as they are stored. Hooks may make anything of the data that was sent, but
what they have made is checked once more, and the store adds nothing but a primary key. So no
request can break this, and no sequence of requests. -/

namespace GuardedQuery

namespace Schema

/-- The row has declared columns only, and a primary key. -/
structure Admits (schema : Schema) (row : Row) : Prop where
  columns : ∀ name ∈ row.names, name ∈ schema.columns
  keyed : ∃ key, row.get? schema.key = some key ∧ key.isNull = false

/-- The primary key is a column unless it is declared as a reverse relation. -/
theorem key_mem_columns {schema : Schema}
    (stored : ∀ target via, schema.kind? schema.key ≠ some (.reverse target via)) :
    schema.key ∈ schema.columns := by
  obtain ⟨field, mem, named⟩ := List.mem_map.1 schema.keyed
  have declared : schema.kind? schema.key = some field.kind := by
    rw [kind?, field?_eq_some_iff.2 ⟨mem, named⟩, Option.map_some]
  refine NameSet.mem_ofList.2 (List.mem_map.2 ⟨field, List.mem_filter.2 ⟨mem, ?_⟩, named⟩)
  cases kind : field.kind with
  | reverse target via => exact absurd (kind ▸ declared) (stored target via)
  | scalar | json | toOne _ | toMany _ => rfl

end Schema

namespace Access
variable {a : Access} {m : Model} {model : String} {data prepared row : Row} {use : FieldUse}

/-- Whatever the hooks have made of it, prepared data has declared columns only. -/
theorem columns_of_prepare (found : a.catalog.get model = .ok m)
    (done : a.prepare model data use = .ok prepared) :
    ∀ name ∈ prepared.names, name ∈ m.schema.columns := by
  obtain ⟨_, _, _, _, _, columns⟩ := prepare_ok found done
  exact columns

theorem columns_of_newRow (found : a.catalog.get model = .ok m)
    (done : a.newRow model data = .ok row) : ∀ name ∈ row.names, name ∈ m.schema.columns :=
  columns_of_prepare found (newRow_ok done)

end Access

namespace Store
variable {s after : Store} {model : String} {m : Model} {changes : Changes}

/-- All stored rows are what the schema of their model declares. -/
def Conforms (s : Store) : Prop :=
  ∀ model m, s.catalog.model? model = some m →
    ∀ row ∈ (s.table model).values, m.schema.Admits row

theorem Conforms.congr (h : s.Conforms) (catalog : after.catalog = s.catalog)
    (tables : after.tables = s.tables) : after.Conforms := by
  intro model m known row mem
  rw [catalog] at known
  rw [table, tables] at mem
  exact h model m known row mem

/-- A store conforms after the table of one model has changed if the rows there do. -/
theorem Conforms.of_others (h : s.Conforms) (same : after.catalog = s.catalog)
    (others : ∀ other, other ≠ model → after.table other = s.table other)
    (here : ∀ m, s.catalog.model? model = some m →
      ∀ row ∈ (after.table model).values, m.schema.Admits row) : after.Conforms := by
  intro other m known row mem
  rw [same] at known
  by_cases e : other = model
  · subst e
    exact here m known row mem
  · rw [others other e] at mem
    exact h other m known row mem

/-! Insertions -/

theorem Table.Completes.admits {schema : Schema} {last : Int} {sent stored : Row}
    (h : Table.Completes schema.key last sent stored) (key : schema.key ∈ schema.columns)
    (columns : ∀ name ∈ sent.names, name ∈ schema.columns) : schema.Admits stored := by
  rcases h with ⟨own, rfl⟩ | ⟨_, rfl⟩
  · refine ⟨columns, ?_⟩
    obtain ⟨found, has⟩ := Option.isSome_iff_exists.1 own
    obtain ⟨value, there, known⟩ := Option.bind_eq_some_iff.1 has
    refine ⟨value, there, ?_⟩
    cases null : value.isNull with
    | false => rfl
    | true => simp [null] at known
  · refine ⟨fun name mem => ?_, .int (last + 1), Entries.get?_insert_self _ _ _, rfl⟩
    rcases Entries.mem_names_insert.1 mem with rfl | mem
    · exact key
    · exact columns name mem

theorem Extends.conforms {rows : List Row} (h : s.Conforms) (same : after.catalog = s.catalog)
    (grows : s.Extends after model m.schema.key rows) (known : s.catalog.model? model = some m)
    (key : m.schema.key ∈ m.schema.columns)
    (columns : ∀ row ∈ rows, ∀ name ∈ row.names, name ∈ m.schema.columns) : after.Conforms := by
  refine h.of_others same grows.others fun m' known' row mem => ?_
  obtain rfl := Option.some.inj (known.symm.trans known')
  obtain ⟨entry, among, rfl⟩ := List.mem_map.1 mem
  rw [grows.appended] at among
  rcases List.mem_append.1 among with old | new
  · exact h model m known entry.2 (List.mem_map_of_mem old)
  · obtain ⟨front, back, split⟩ := List.append_of_mem new
    obtain ⟨sent, inside, completes⟩ := grows.adds.completes front entry back split
    exact completes.admits key (columns sent inside)

/-! Changes -/

theorem mem_values_of_get? {t : Table} {key : Value} {row : Row} (found : t.get? key = some row) :
    row ∈ t.values := by
  obtain ⟨n, _, here⟩ := Option.bind_eq_some_iff.1 found
  obtain ⟨front, back, split, _⟩ := List.lookup_eq_some_iff.1 here
  rw [Table.values, split]
  simp

theorem mem_values_of_replace {t : Table} {key : Value} {now row : Row}
    (mem : row ∈ (t.replace key now).values) : row = now ∨ row ∈ t.values := by
  rw [Table.replace] at mem
  split at mem
  · obtain ⟨entry, among, rfl⟩ := List.mem_map.1 mem
    obtain ⟨old, inside, rfl⟩ := List.mem_map.1 among
    split
    · exact .inl rfl
    · exact .inr (List.mem_map_of_mem inside)
  · exact .inr mem

theorem admits_of_changed (found : s.model model = .ok m) {old now : Row}
    (done : s.changed model changes old = .ok now) (h : m.schema.Admits old)
    (columns : ∀ name ∈ changes.names, name ∈ m.schema.columns) : m.schema.Admits now := by
  refine ⟨fun name mem => ?_, by rw [changed_key found done]; exact h.keyed⟩
  by_cases sent : name ∈ changes.names
  · exact columns name sent
  · obtain ⟨value, there⟩ := Entries.exists_get?_of_mem_names mem
    rw [not_not.1 (mt (alters_changed done name) sent)] at there
    exact h.columns name (List.mem_map_of_mem (Entries.mem_of_get? there))

theorem catalog_of_updateRow {key : Value} {now : Row}
    (done : s.updateRow model key changes = (.ok now, after)) : after.catalog = s.catalog := by
  have works : s.Works (s.updateRow model key changes).2 := s.works_updateRow key changes
  rw [done] at works
  exact works.catalog

theorem updateRow_conforms {key : Value} {now : Row} (h : s.Conforms)
    (known : s.catalog.model? model = some m)
    (columns : ∀ name ∈ changes.names, name ∈ m.schema.columns)
    (done : s.updateRow model key changes = (.ok now, after)) : after.Conforms := by
  refine h.of_others (catalog_of_updateRow done) (updateRow_amends done).others
    fun m' known' row mem => ?_
  obtain rfl := Option.some.inj (known.symm.trans known')
  obtain ⟨old, addressed, made, rfl⟩ := updateRow_ok done
  rw [table_withTable_self] at mem
  have there := h model m known old (mem_values_of_get? addressed)
  rcases mem_values_of_replace mem with rfl | mem
  · exact admits_of_changed (model_ok_iff.2 known) made there columns
  · exact h model m known row mem

theorem updateRows_conforms {keys : List Value} (h : s.Conforms)
    (known : s.catalog.model? model = some m)
    (columns : ∀ name ∈ changes.names, name ∈ m.schema.columns)
    (done : updateRows model changes keys s = (.ok (), after)) : after.Conforms := by
  induction keys generalizing s with
  | nil =>
    obtain rfl : s = after := by simpa [updateRows] using done
    exact h
  | cons key rest ih =>
    rw [updateRows] at done
    split at done
    · cases done
    rename_i now between first
    refine ih (updateRow_conforms h known columns first) ?_ done
    rwa [catalog_of_updateRow first]

/-! Removals -/

theorem deleteWhere_conforms {sel : Selection} {keys : List Value} (h : s.Conforms)
    (done : s.deleteWhere sel = (.ok keys, after)) : after.Conforms := by
  have shrinks := deleteWhere_drops done
  obtain rfl := deleteWhere_ok done
  refine h.of_others rfl shrinks.others fun m known row mem => ?_
  rw [table_withTable_self] at mem
  exact h sel.model m known row (((foldl_remove_sublist _ keys).map Prod.snd).subset mem)

/-! Keys of rows

A row is told by its number, which no later row gets. -/

namespace Table
variable {t t' : Table} {keyName : String}

/-- A later table: numbers given before are given to no other row, and a row that is still there has
the primary key that it had. -/
structure Precedes (keyName : String) (t t' : Table) : Prop where
  count : t.count ≤ t'.count
  counted : (∀ entry ∈ t.rows, entry.1 ≤ t.count) → ∀ entry ∈ t'.rows, entry.1 ≤ t'.count
  keys : ∀ n ≤ t.count, ∀ now, t'.rows.lookup n = some now →
    ∃ old, t.rows.lookup n = some old ∧ now.get? keyName = old.get? keyName

theorem Precedes.refl (t : Table) : t.Precedes keyName t :=
  ⟨Nat.le_refl _, id, fun _ _ now there => ⟨now, there, rfl⟩⟩

theorem Precedes.trans {between : Table} (h : t.Precedes keyName between)
    (h' : between.Precedes keyName t') : t.Precedes keyName t' where
  count := h.count.trans h'.count
  counted all := h'.counted (h.counted all)
  keys n given now there := by
    obtain ⟨middle, found, same⟩ := h'.keys n (given.trans h.count) now there
    obtain ⟨old, before, same'⟩ := h.keys n given middle found
    exact ⟨old, before, same.trans same'⟩

theorem precedes_append (key : Value) (row : Row) : t.Precedes keyName (t.append key row) where
  count := Nat.le_succ _
  counted all entry mem := by
    rcases List.mem_append.1 mem with old | new
    · exact (all entry old).trans (Nat.le_succ _)
    · rw [List.mem_singleton.1 new]
      exact Nat.le_refl _
  keys n given now there := by
    refine ⟨now, ?_, rfl⟩
    have other : n ≠ t.count + 1 := by omega
    rw [append, List.lookup_append, lookup_entry, if_neg other, List.lookup_nil,
      Option.or_none] at there
    exact there

theorem precedes_insertKeyed (model : String) (key : Value) (row : Row) :
    t.Precedes keyName (t.insertKeyed model key row).2 := by
  -- the greatest key so far plays no part
  have same : t.Precedes keyName { t with lastKey := keyAfter t.lastKey key } :=
    ⟨Nat.le_refl _, id, fun _ _ now there => ⟨now, there, rfl⟩⟩
  rw [insertKeyed]
  split
  · exact same
  · exact same.trans (precedes_append key row)

theorem precedes_insert (model : String) (row : Row) :
    t.Precedes keyName (t.insert model keyName row).2 := by
  rw [insert]
  split
  · exact precedes_insertKeyed _ _ _
  · split
    · exact precedes_insertKeyed _ _ _
    · exact .refl t

theorem precedes_insertAll {model : String} {rows stored : List Row}
    (done : insertAll model keyName rows t = .ok (stored, t')) : t.Precedes keyName t' := by
  induction rows generalizing t stored with
  | nil =>
    cases done
    exact .refl _
  | cons row rest ih =>
    rw [insertAll] at done
    have first : t.Precedes keyName (t.insert model keyName row).2 := precedes_insert model row
    split at done
    · cases done
    · rename_i inserted between outcome
      rw [outcome] at first
      obtain ⟨⟨others, last⟩, further, same⟩ := Checks.map_ok_iff.1 done
      cases same
      exact first.trans (ih further)

theorem precedes_replace {key : Value} {before now : Row} (addressed : t.get? key = some before)
    (same : now.get? keyName = before.get? keyName) : t.Precedes keyName (t.replace key now) := by
  obtain ⟨n, numbered, found⟩ := Option.bind_eq_some_iff.1 addressed
  have result : t.replace key now = { t with
      rows := t.rows.map fun entry => if entry.1 = n then (n, now) else entry } := by
    rw [replace, numbered]
  rw [result]
  refine ⟨Nat.le_refl _, fun all entry mem => ?_, fun k _ row there => ?_⟩
  · obtain ⟨old, among, rfl⟩ := List.mem_map.1 mem
    have bound := all old among
    split
    · rename_i here
      rwa [← here]
    · exact bound
  · rw [lookup_replaced] at there
    split at there
    · rename_i here
      rw [found] at there
      cases there
      exact ⟨before, here ▸ found, same⟩
    · exact ⟨row, there, rfl⟩

theorem precedes_remove (key : Value) : t.Precedes keyName (t.remove key) := by
  rw [remove]
  split
  · refine ⟨Nat.le_refl _, fun all entry mem => all entry (List.mem_of_mem_filter mem),
      fun k _ row there => ?_⟩
    rw [lookup_removed] at there
    split at there
    · cases there
    · exact ⟨row, there, rfl⟩
  · exact .refl t

theorem precedes_foldl_remove (keys : List Value) :
    t.Precedes keyName (keys.foldl Table.remove t) := by
  induction keys generalizing t with
  | nil => exact .refl t
  | cons key rest ih => exact (precedes_remove key).trans ih

end Table

/-- A later store, by the tables of its models. -/
structure Precedes (s after : Store) : Prop where
  catalog : after.catalog = s.catalog
  tables : ∀ model m, s.catalog.model? model = some m →
    (s.table model).Precedes m.schema.key (after.table model)

namespace Precedes

theorem refl (s : Store) : s.Precedes s := ⟨rfl, fun _ _ _ => .refl _⟩

theorem trans {between : Store} (h : s.Precedes between) (h' : between.Precedes after) :
    s.Precedes after := by
  refine ⟨h'.catalog.trans h.catalog, fun model m known => (h.tables model m known).trans ?_⟩
  exact h'.tables model m (by rw [h.catalog]; exact known)

theorem of_tables (catalog : after.catalog = s.catalog) (tables : after.tables = s.tables) :
    s.Precedes after := by
  refine ⟨catalog, fun model m _ => ?_⟩
  rw [table, table, tables]
  exact .refl _

end Precedes

theorem precedes_withTable (found : s.model model = .ok m) {t : Table}
    (h : (s.table model).Precedes m.schema.key t) : s.Precedes (s.withTable model t) := by
  refine ⟨rfl, fun other m' known => ?_⟩
  by_cases e : other = model
  · subst e
    obtain rfl := Option.some.inj ((model_ok_iff.1 found).symm.trans known)
    rwa [table_withTable_self]
  · rw [table_withTable_of_ne t e]
    exact .refl _

theorem precedes_updateRow (key : Value) (changes : Changes) :
    s.Precedes (s.updateRow model key changes).2 := by
  rw [updateRow]
  split
  · exact .refl s
  · rename_i before addressed
    split
    · exact .refl s
    · rename_i now made
      cases found : s.model model with
      | error e =>
        rw [changed, found] at made
        cases made
      | ok m =>
        exact precedes_withTable found (Table.precedes_replace addressed (changed_key found made))

theorem precedes_updateRows (changes : Changes) (keys : List Value) (s : Store) :
    s.Precedes (updateRows model changes keys s).2 := by
  induction keys generalizing s with
  | nil => exact .refl s
  | cons key rest ih =>
    rw [updateRows]
    have first : s.Precedes (s.updateRow model key changes).2 := precedes_updateRow key changes
    split
    · rename_i failed
      rwa [failed] at first
    · rename_i done
      rw [done] at first
      exact first.trans (ih _)

/-- Every call leads to a later store. -/
theorem precedes_answer (s : Store) (c : Call) : s.Precedes (s.answer c).2 := by
  cases c with
  | select | count | aggregate | related => exact .refl s
  | insert model row =>
    change s.Precedes (s.insert model row).2
    rw [insert]
    split
    · exact .refl s
    · rename_i m found
      exact precedes_withTable found (Table.precedes_insert model row)
  | insertMany model rows =>
    change s.Precedes (s.insertMany model rows).2
    rw [insertMany]
    split
    · exact .refl s
    · rename_i m found
      split
      · exact .refl s
      · rename_i inserted
        exact precedes_withTable found (Table.precedes_insertAll inserted)
  | updateRow model key changes => exact precedes_updateRow key changes
  | updateWhere sel changes =>
    change s.Precedes (s.updateWhere sel changes).2
    rw [updateWhere]
    split
    · exact .refl s
    · exact precedes_updateRows changes _ s
  | deleteWhere sel =>
    change s.Precedes (s.deleteWhere sel).2
    rw [deleteWhere]
    split
    · exact .refl s
    · rename_i keys selected
      rw [selectKeys] at selected
      obtain ⟨rows, _, selected⟩ := Checks.bind_ok_iff.1 selected
      obtain ⟨m, found, _⟩ := Checks.bind_ok_iff.1 selected
      exact precedes_withTable found (Table.precedes_foldl_remove keys)

end Store

theorem Script.precedes_run {α : Type} (script : Script α) (s : Store) :
    s.Precedes (script.run s).2 :=
  script.holds_run (P := s.Precedes) (fun t c earlier => earlier.trans (t.precedes_answer c))
    (.refl s)

/-- No primary key is declared as a reverse relation, which no row could hold. -/
def Catalog.StoresKeys (c : Catalog) : Prop :=
  ∀ model m, c.model? model = some m →
    ∀ target via, m.schema.kind? m.schema.key ≠ some (.reverse target via)

namespace Plan
variable {p : Plan} {s after : Store} {m : Model} {events : List Event}

theorem Sends.columns {data : Row} {changes : Changes} (found : p.access.catalog.get p.name = .ok m)
    (sends : p.Sends data changes) : ∀ name ∈ changes.names, name ∈ m.schema.columns := by
  obtain ⟨prepared, kept, made⟩ := sends
  exact fun name mem => Access.columns_of_prepare found kept name
    (Access.mem_names_of_changes made mem)

/-- One write leaves stored rows as they are declared, whichever way it takes to the store. -/
theorem Writes.conforms (about : p.selection.model = p.name)
    (found : p.access.catalog.get p.name = .ok m) (known : s.catalog.model? p.name = some m)
    (key : m.schema.key ∈ m.schema.columns) (h : s.Conforms) (writes : p.Writes s after events) :
    after.Conforms := by
  cases writes with
  | nothing => exact h
  | @inserted data row stored after _ made done =>
    obtain ⟨m', known', grows⟩ := Store.insert_extends done
    obtain rfl := Option.some.inj (known.symm.trans (Store.model_ok_iff.1 known'))
    have works : s.Works (s.insert p.name row).2 := s.works_insert row
    rw [done] at works
    refine grows.conforms h works.catalog known key fun sent mem => ?_
    rw [List.mem_singleton.1 mem]
    exact Access.columns_of_newRow found made
  | @insertedAll items rows stored after _ made done =>
    obtain ⟨m', known', grows⟩ := Store.insertMany_extends done
    obtain rfl := Option.some.inj (known.symm.trans (Store.model_ok_iff.1 known'))
    have works : s.Works (s.insertMany p.name rows).2 := s.works_insertMany rows
    rw [done] at works
    refine grows.conforms h works.catalog known key fun sent mem => ?_
    obtain ⟨data, _, prepared⟩ := Checks.exists_of_mapM_ok made mem
    exact Access.columns_of_newRow found prepared
  | updated _ sends done =>
    have ran := Store.updateWhere_ok done
    rw [Selection.whole_model, about] at ran
    exact Store.updateRows_conforms h known (sends.columns found) ran
  | changed _ sends done => exact Store.updateRow_conforms h known (sends.columns found) done
  | deleted _ done | removed _ done => exact Store.deleteWhere_conforms h done

end Plan

namespace Engine
variable {e : Engine} {st between after : State} {model : String} {q : Query} {request : Request}

/-- A request leads to a later store, whatever comes of it. -/
theorem precedes_execute (model : String) (q : Query) (request : Request) (st : State) :
    st.store.Precedes (e.execute model q request st).2.store := by
  unfold execute
  split
  case h_2 => exact .refl _
  case h_1 p planned =>
    unfold runPlan
    split
    case h_1 run reading =>
      have kept := Run.store_of_asks (fun _ => not_isWrite_of_readsWithin)
        (p.asks_handling reading) st
      change st.store.Precedes (run.run st).2.store
      rw [kept]
      exact .refl _
    case h_2 script writing =>
      have ran := (Store.Precedes.of_tables rfl rfl : st.store.Precedes st.store.begin).trans
        (script.precedes_run st.store.begin)
      have undone := script.tables_rollback st.store
      have same := script.catalog_run st.store.begin
      unfold transact
      split
      · rename_i written last ended
        rw [ended] at ran
        exact ran.trans (.of_tables rfl rfl)
      · rename_i fault last ended
        rw [ended] at undone same
        exact .of_tables same undone

/-- A request leaves stored rows as they are declared, whatever comes of it. -/
theorem conforms_execute (stored : e.catalog.StoresKeys) (same : st.store.catalog = e.catalog)
    (h : st.store.Conforms) : (e.execute model q request st).2.store.Conforms := by
  unfold execute
  split
  case h_2 => exact h
  case h_1 p planned =>
    have plans := Access.plans_of_plan planned
    unfold runPlan
    split
    case h_1 run reading =>
      have kept := Run.store_of_asks (fun _ => not_isWrite_of_readsWithin)
        (p.asks_handling reading) st
      change (run.run st).2.store.Conforms
      rwa [kept]
    case h_2 script writing =>
      have undone := script.tables_rollback st.store
      have catalog := script.catalog_run st.store.begin
      unfold transact
      split
      · rename_i written last ended
        have found : p.access.catalog.get p.name = .ok p.model := by
          rw [plans.accessed, plans.named]
          exact plans.found
        have declared : e.catalog.model? p.name = some p.model := by
          rw [plans.named]
          exact Catalog.get_ok_iff.1 plans.found
        have known : st.store.begin.catalog.model? p.name = some p.model :=
          (congrArg (Catalog.model? · p.name) same).trans declared
        have writes := Plan.writes_of_run (plans.asked ▸ plans.permitted) writing ended
        exact (writes.conforms plans.about found known
          (Schema.key_mem_columns (stored p.name p.model declared)) h).congr rfl rfl
      · rename_i fault last ended
        rw [ended] at undone catalog
        exact h.congr catalog undone

/-- Requests, whether as queries or as what queries are read from, lead from one state to the
next. -/
inductive Serves (e : Engine) : State → State → Prop where
  | idle (st : State) : Serves e st st
  | query {st between : State} (earlier : Serves e st between) (model : String) (q : Query)
      (request : Request) : Serves e st (e.execute model q request between).2
  | value {st between : State} (earlier : Serves e st between) (model : String) (ast : Value)
      (request : Request) : Serves e st (e.executeValue model ast request between).2

/-- What no query breaks, no sequence of requests breaks. -/
theorem Serves.holds {P : State → Prop} (serves : e.Serves st after) (holds : P st)
    (kept : ∀ (between : State) (model : String) (q : Query) (request : Request), P between →
      P (e.execute model q request between).2) : P after := by
  induction serves with
  | idle => exact holds
  | query _ model q request ih => exact kept _ model q request ih
  | value _ model ast request ih =>
    unfold executeValue
    split
    · exact kept _ model _ request ih
    · exact ih

theorem Serves.precedes (serves : e.Serves st after) : st.store.Precedes after.store :=
  serves.holds (P := fun between => st.store.Precedes between.store) (.refl _)
    fun between model q request earlier =>
      earlier.trans (precedes_execute model q request between)

theorem Serves.conforms (stored : e.catalog.StoresKeys) (same : st.store.catalog = e.catalog)
    (conforms : st.store.Conforms) (serves : e.Serves st after) :
    after.store.catalog = e.catalog ∧ after.store.Conforms :=
  serves.holds (P := fun st => st.store.catalog = e.catalog ∧ st.store.Conforms) ⟨same, conforms⟩
    fun between model q request ⟨catalog, h⟩ =>
      ⟨(precedes_execute model q request between).catalog.trans catalog,
        conforms_execute stored catalog h⟩

/-- Whatever hooks there are, after any sequence of requests every stored row has declared columns
only, so nothing that is computed, and it has a primary key, if the rows at the beginning have. A
row that is stored at two times has the same primary key at both; it is told by its number, and
numbers are given in increasing order. -/
theorem served_rows_stay_as_declared {models : List Model}
    (built : Catalog.build models = .ok e.catalog) (stored : e.catalog.StoresKeys)
    (same : st.store.catalog = e.catalog) (conforms : st.store.Conforms)
    (counted : ∀ model, ∀ entry ∈ (st.store.table model).rows,
      entry.1 ≤ (st.store.table model).count)
    (earlier : e.Serves st between) (later : e.Serves between after) :
    (∀ model m, e.catalog.model? model = some m → ∀ row ∈ (after.store.table model).values,
      m.schema.Admits row ∧ ∀ field ∈ m.computed, field.name ∉ row.names) ∧
    ∀ model m, e.catalog.model? model = some m → ∀ n old now,
      between.store.rowAt model n = some old → after.store.rowAt model n = some now →
        now.get? m.schema.key = old.get? m.schema.key := by
  obtain ⟨first, kept⟩ := earlier.conforms stored same conforms
  obtain ⟨last, kept⟩ := later.conforms stored first kept
  constructor
  · intro model m known row mem
    have admits := kept model m (by rw [last]; exact known) row mem
    refine ⟨admits, fun field computed among => ?_⟩
    obtain ⟨declared, inside, named⟩ :=
      List.mem_map.1 (NameSet.mem_ofList.1 (admits.columns field.name among))
    have none := Catalog.field?_of_computed built known computed
    rw [Schema.field?_eq_some_iff.2 ⟨List.mem_of_mem_filter inside, named⟩] at none
    cases none
  · intro model m known n old now before there
    have numbered := (earlier.precedes.tables model m (by rw [same]; exact known)).counted
      (counted model)
    obtain ⟨front, back, split, _⟩ := List.lookup_eq_some_iff.1 before
    have given := numbered (n, old) (by rw [split]; simp)
    obtain ⟨old', before', kept⟩ := (later.precedes.tables model m (by
      rw [first]; exact known)).keys n given now there
    obtain rfl := Option.some.inj (before.symm.trans before')
    exact kept

end Engine

/-! Labels, whose hooks rename what is sent and fill in a column -/

namespace Labels

def label : Model :=
  { Model.ofSchema (((Schema.ofKey "label" "id").withField ⟨"name", .scalar⟩).withField
      ⟨"slug", .scalar⟩) with
    guards := [.allowAll]
    computed := [⟨"shout", fun row => (row.get? "name").getD .null⟩]
    beforeHooks := [fun _ data =>
      .ok ([("name", (data.get? "title").getD .null), ("rank", .int 1), ("shout", .str "!")])]
    afterHooks := [fun _ data => .ok (data.insert "slug" ((data.get? "name").getD .null))] }

def engine : Engine :=
  ⟨⟨.ofList [("label", label)]⟩, ⟨.drop, 5⟩, none, fun _ => .ok ()⟩

def start : Engine.State := ⟨.ofCatalog engine.catalog, .ofSettings .default⟩

def titled (op : Operation) (title : String) : Query :=
  { Query.plain op with data := some (.obj [("id", .int 7), ("title", .str title)]) }

/-- The state after a label has been created. -/
def created : Engine.State := (engine.execute "label" (titled .create "a") .anonymous start).2

/-- The state after all labels have been given another name. -/
def renamed : Engine.State := (engine.execute "label" (titled .update "b") .anonymous created).2

theorem storesKeys : engine.catalog.StoresKeys := by
  intro model m found
  obtain rfl : m = label := List.mem_singleton.1 (Catalog.mem_values_of_model? found)
  exact fun target via h => by cases h

theorem renamed_label_stays_as_declared :
    ∃ old now, created.store.rowAt "label" 1 = some old ∧ renamed.store.rowAt "label" 1 = some now ∧
      (now.get? "slug").bind Value.str? = some "b" ∧ label.schema.Admits now ∧
      "shout" ∉ now.names ∧ now.get? "id" = old.get? "id" := by
  have earlier : engine.Serves start created := .query (.idle start) _ _ _
  have later : engine.Serves created renamed := .query (.idle created) _ _ _
  have rows : (created.store.rowAt "label" 1).isSome = true ∧
      (renamed.store.rowAt "label" 1).bind (fun row => (row.get? "slug").bind Value.str?) =
        some "b" := by decide +kernel
  obtain ⟨old, before⟩ := Option.isSome_iff_exists.1 rows.1
  obtain ⟨now, there, slug⟩ := Option.bind_eq_some_iff.1 rows.2
  have built : Catalog.build [label] = .ok engine.catalog := rfl
  obtain ⟨declared, keys⟩ := Engine.served_rows_stay_as_declared built storesKeys rfl
    (fun _ _ _ _ mem => absurd mem List.not_mem_nil)
    (fun _ _ mem => absurd mem List.not_mem_nil) earlier later
  obtain ⟨front, back, split, _⟩ := List.lookup_eq_some_iff.1 there
  have mem : now ∈ (renamed.store.table "label").values := by
    rw [Store.Table.values, split]
    simp
  obtain ⟨admits, computed⟩ := declared "label" label rfl now mem
  exact ⟨old, now, before, there, slug, admits, computed _ List.mem_cons_self,
    keys "label" label rfl 1 old now before there⟩

end Labels

end GuardedQuery
