import GuardedQuery.Proofs.Writing.Outcomes

/-! Which columns a request can write. Whatever the hooks before it make of the data that was sent,
the permissions of the caller cut it down to columns that it may write, and only these reach the
store. The store adds a primary key to a new row that has none. -/

namespace GuardedQuery

/-- A column that rows of the model can hold and that the guards let the request write. -/
def Model.MayWrite (m : Model) (request : Request) (use : FieldUse) (column : String) : Prop :=
  column ∈ m.fields request use ∧ column ∈ m.schema.columns

namespace Access
variable {a : Access} {m : Model} {model : String} {data prepared row : Row} {use : FieldUse}

theorem writable_ok (found : a.catalog.get model = .ok m)
    (done : a.writable model data use = .ok prepared) :
    prepared = data.filter fun entry =>
      (m.fields a.request use).contains entry.1 && m.schema.columns.contains entry.1 := by
  unfold writable at done
  obtain ⟨m', known, done⟩ := Checks.bind_ok_iff.1 done
  obtain rfl := Except.ok.inj (found.symm.trans known)
  simp only at done
  split at done
  · cases done
  · exact (Checks.pure_ok_iff.1 done).symm

theorem writable_names (found : a.catalog.get model = .ok m)
    (done : a.writable model data use = .ok prepared) :
    ∀ column ∈ prepared.names, m.MayWrite a.request use column := by
  intro column mem
  obtain ⟨entry, among, rfl⟩ := List.mem_map.1 mem
  rw [writable_ok found done] at among
  have kept := (List.mem_filter.1 among).2
  rw [Bool.and_eq_true, NameSet.contains_iff, NameSet.contains_iff] at kept
  exact kept

/-- Prepared data has gone through the first hooks, the permissions and the last hooks, and it names
columns only. -/
theorem prepare_ok (found : a.catalog.get model = .ok m)
    (done : a.prepare model data use = .ok prepared) :
    ∃ hooked kept, runHooks a.request m.beforeHooks data = .ok hooked ∧
      a.writable model hooked use = .ok kept ∧
      runHooks a.request m.afterHooks kept = .ok prepared ∧
      ∀ name ∈ prepared.names, name ∈ m.schema.columns := by
  unfold prepare at done
  obtain ⟨m', known, done⟩ := Checks.bind_ok_iff.1 done
  obtain rfl := Except.ok.inj (found.symm.trans known)
  obtain ⟨hooked, before, done⟩ := Checks.bind_ok_iff.1 done
  obtain ⟨kept, permitted, done⟩ := Checks.bind_ok_iff.1 done
  obtain ⟨completed, after, done⟩ := Checks.bind_ok_iff.1 done
  simp only at done
  split at done
  · cases done
  rename_i all
  obtain rfl := Checks.pure_ok_iff.1 done
  refine ⟨hooked, kept, before, permitted, after, fun name mem => ?_⟩
  have none : completed.names.filter (!m.schema.columns.contains ·) = [] := by simpa using all
  have column := List.filter_eq_nil_iff.1 none name mem
  simpa using column

/-- Without hooks after the permissions, prepared data has columns that the caller may write. -/
theorem prepare_names (found : a.catalog.get model = .ok m) (last : m.afterHooks = [])
    (done : a.prepare model data use = .ok prepared) :
    ∀ column ∈ prepared.names, m.MayWrite a.request use column := by
  obtain ⟨_, kept, _, permitted, hooks, _⟩ := prepare_ok found done
  rw [last, runHooks, List.foldlM_nil] at hooks
  obtain rfl := Checks.pure_ok_iff.1 hooks
  exact writable_names found permitted

theorem newRow_ok (done : a.newRow model data = .ok row) :
    a.prepare model data .create = .ok row := by
  obtain ⟨prepared, kept, done⟩ := Checks.bind_ok_iff.1 done
  unfold requirePlain at done
  split at done
  · cases done
  · obtain rfl := Except.ok.inj done
    exact kept

theorem newRow_names (found : a.catalog.get model = .ok m) (last : m.afterHooks = [])
    (done : a.newRow model data = .ok row) :
    ∀ column ∈ row.names, m.MayWrite a.request .create column :=
  prepare_names found last (newRow_ok done)

/-- Changes are made to the columns that the data names. -/
theorem mem_names_of_changes {changes : Changes} (done : a.changes model data = .ok changes)
    {column : String} (mem : column ∈ changes.names) : column ∈ data.names := by
  unfold Access.changes at done
  obtain ⟨m, _, done⟩ := Checks.bind_ok_iff.1 done
  obtain ⟨entry, among, rfl⟩ := List.mem_map.1 mem
  obtain ⟨sent, inside, made⟩ := Checks.exists_of_mapM_ok done among
  obtain ⟨change, _, made⟩ := Checks.bind_ok_iff.1 made
  rw [← Checks.pure_ok_iff.1 made]
  exact List.mem_map_of_mem inside

end Access

namespace Store

theorem Table.Completes.get? {keyName : String} {last : Int} {sent stored : Row}
    (h : Table.Completes keyName last sent stored) {column : String} {value : Value}
    (present : stored.get? column = some value) :
    column ∈ sent.names ∨ column = keyName ∧ value = .int (last + 1) := by
  rcases h with ⟨_, rfl⟩ | ⟨_, rfl⟩
  · exact .inl (List.mem_map_of_mem (Entries.mem_of_get? present))
  · by_cases assigned : column = keyName
    · rw [assigned, Entries.get?_insert_self] at present
      exact .inr ⟨assigned, (Option.some.inj present).symm⟩
    · rw [Entries.get?_insert_of_ne (Ne.symm assigned)] at present
      exact .inl (List.mem_map_of_mem (Entries.mem_of_get? present))

/-- What a store has become by writes to one model that keep to the columns that a request may
write: a stored row differs in columns that may be updated, and a new row has columns that may be
created, along with a primary key that the store has assigned. -/
structure Confines (s after : Store) (m : Model) (model : String) (request : Request) : Prop where
  others : ∀ other, other ≠ model → after.table other = s.table other
  changed : ∀ n old now, s.rowAt model n = some old → after.rowAt model n = some now →
    ∀ column, now.get? column ≠ old.get? column → m.MayWrite request .update column
  inserted : ∀ n row, s.rowAt model n = none → after.rowAt model n = some row →
    ∀ column value, row.get? column = some value → m.MayWrite request .create column ∨
      column = m.schema.key ∧ value = .int (s.keyBefore after model m.schema.key n + 1)

namespace Confines
variable {s after : Store} {m : Model} {model : String} {request : Request}

/-- Rows that are still there are as they were, and there are no new ones. -/
theorem of_drops (h : s.Drops after model) : s.Confines after m model request where
  others := h.others
  changed n old now before later column differs := by
    rw [h.rows n now later] at before
    rw [Option.some.inj before] at differs
    exact absurd rfl differs
  inserted n row before later := by
    rw [h.rows n row later] at before
    cases before

theorem refl (s : Store) : s.Confines s m model request :=
  of_drops ⟨fun _ _ found => found, fun _ _ => rfl⟩

theorem of_amends {columns : String → Prop} (h : s.Amends after model columns)
    (permitted : ∀ column, columns column → m.MayWrite request .update column) :
    s.Confines after m model request where
  others := h.others
  changed n old now before later column differs := by
    have step := h.rows n
    rw [before, later] at step
    cases step with
    | some alters => exact permitted column (alters column differs)
  inserted n row before later := by
    have step := h.rows n
    rw [before, later] at step
    cases step

theorem of_extends {rows : List Row} (h : s.Extends after model m.schema.key rows)
    (permitted : ∀ row ∈ rows, ∀ column ∈ row.names, m.MayWrite request .create column) :
    s.Confines after m model request where
  others := h.others
  changed n old now before later column differs := by
    rw [h.rowAt, before, Option.some_or] at later
    rw [Option.some.inj later] at differs
    exact absurd rfl differs
  inserted n row before later column value present := by
    obtain ⟨sent, mem, completes⟩ := h.completes before later
    exact (completes.get? present).imp_left (permitted sent mem column)

end Confines

end Store

namespace Plan
variable {p : Plan} {s after : Store} {m : Model}

/-- All writes of a plan keep to the permitted columns. -/
theorem Effect.confines (found : p.access.catalog.get p.name = .ok m) (last : m.afterHooks = [])
    (known : s.model p.name = .ok m) (effect : p.Effect s after) :
    s.Confines after m p.name p.request := by
  cases effect with
  | nothing same =>
    rw [same]
    exact .refl s
  | adding _ same made grows =>
    obtain rfl := Except.ok.inj (known.symm.trans same)
    refine .of_extends grows fun row mem => ?_
    obtain ⟨data, prepared⟩ := made row mem
    exact Access.newRow_names found last prepared
  | changing _ sends alters =>
    obtain ⟨prepared, kept, made⟩ := sends
    refine .of_amends alters fun column mem => ?_
    exact Access.prepare_names found last kept column (Access.mem_names_of_changes made mem)
  | removing _ shrinks => exact .of_drops shrinks

end Plan

namespace Engine
variable {e : Engine} {st st' : State} {model : String} {q : Query} {request : Request}
  {r : Response} {deliveries : List Delivery} {m : Model}

/-- For a model without hooks behind the permissions, a request that is answered has changed stored
rows in columns only that its caller may update, and the columns of a new row are those that the
caller may create, up to a primary key that the store has assigned. -/
theorem writes_keep_to_permitted_columns (same : st.store.catalog = e.catalog)
    (found : e.catalog.get model = .ok m) (last : m.afterHooks = [])
    (executed : e.execute model q request st = (⟨.ok r, deliveries⟩, st')) :
    st.store.Confines st'.store m model request := by
  obtain ⟨p, plans, kept | ⟨after, effect, committed⟩⟩ := effect_of_executed executed
  · rw [kept]
    exact .refl _
  · obtain rfl : model = p.name := plans.named.symm
    have given : p.access.catalog.get p.name = .ok m := by rw [plans.accessed]; exact found
    have known : st.store.begin.model p.name = .ok m := by
      rw [Store.model_ok_iff, ← Catalog.get_ok_iff]
      exact (congrArg (Catalog.get · p.name) same).trans found
    have confined := effect.confines given last known
    rw [Plan.request, plans.accessed] at confined
    rw [committed]
    exact ⟨confined.others, confined.changed, confined.inserted⟩

end Engine

/-! Accounts, whose role is set by a hook and may be written by nobody -/

namespace Accounts

def account : Model :=
  { Model.ofSchema (((Schema.ofKey "account" "id").withField ⟨"name", .scalar⟩).withField
      ⟨"role", .scalar⟩) with
    guards := [{ Guard.allowAll with
      fields := fun _ use => if use = .read then .all else .only (.ofList ["name"]) }]
    beforeHooks := [fun _ data => .ok (data.insert "role" (.str "admin"))] }

def engine : Engine := ⟨⟨.ofList [("account", account)]⟩, .default, none, fun _ => .ok ()⟩

def row (id : Int) (name role : String) : Row :=
  [("id", .int id), ("name", .str name), ("role", .str role)]

def accounts : Store :=
  ((Store.ofCatalog engine.catalog).answer (.insertMany "account" [row 7 "ann" "user"])).2

def state : Engine.State := ⟨accounts, .ofSettings .default⟩

/-- Data with which a caller names a row and asks for a role. -/
def data : Value := .obj [("id", .int 1), ("name", .str "eve"), ("role", .str "admin")]

def rename : Query := { Query.plain .update with data := some data }

def register : Query := { Query.plain .create with data := some data }

theorem not_mayWrite_role (use : FieldUse) (writes : use ≠ .read) :
    ¬ account.MayWrite .anonymous use "role" := by
  intro may
  cases use with
  | read => exact writes rfl
  | create | update =>
    have listed : "role" ∈ account.fields .anonymous .update := may.1
    exact absurd listed (by decide +kernel)

/-- An update keeps the role, and a new account has none; its key comes after the greatest one,
whatever key was sent. -/
theorem roles_are_kept :
    (∃ (r : Response) (deliveries : List Delivery) (after : Engine.State) (now : Row),
      engine.execute "account" rename .anonymous state = (⟨.ok r, deliveries⟩, after) ∧
      after.store.rowAt "account" 1 = some now ∧ now.get? "role" = some (.str "user")) ∧
    ∃ (r : Response) (deliveries : List Delivery) (after : Engine.State) (new : Row),
      engine.execute "account" register .anonymous state = (⟨.ok r, deliveries⟩, after) ∧
      after.store.rowAt "account" 2 = some new ∧ new.get? "role" = none ∧
        new.get? "id" = some (.int 8) := by
  constructor
  · have ok : (engine.execute "account" rename .anonymous state).1.answer.isOk = true := by
      decide +kernel
    have there : ((engine.execute "account" rename .anonymous state).2.store.rowAt
      "account" 1).isSome = true := by decide +kernel
    obtain ⟨r, deliveries, after, executed⟩ := Engine.executed_of_isOk ok
    rw [executed] at there
    obtain ⟨now, found⟩ := Option.isSome_iff_exists.1 there
    have confined := Engine.writes_keep_to_permitted_columns (m := account) rfl rfl rfl executed
    refine ⟨r, deliveries, after, now, executed, found, ?_⟩
    by_contra differs
    have before : state.store.rowAt "account" 1 = some (row 7 "ann" "user") := rfl
    exact not_mayWrite_role .update nofun (confined.changed 1 _ now before found "role" differs)
  · have ok : (engine.execute "account" register .anonymous state).1.answer.isOk = true := by
      decide +kernel
    have keyed : (((engine.execute "account" register .anonymous state).2.store.rowAt
      "account" 2).bind (·.get? "id")).isSome = true := by decide +kernel
    have greatest : accounts.keyBefore
      (engine.execute "account" register .anonymous state).2.store "account" "id" 2 = 7 := by
      decide +kernel
    obtain ⟨r, deliveries, after, executed⟩ := Engine.executed_of_isOk ok
    rw [executed] at keyed greatest
    obtain ⟨key, keyed⟩ := Option.isSome_iff_exists.1 keyed
    obtain ⟨new, found, has⟩ := Option.bind_eq_some_iff.1 keyed
    have confined := Engine.writes_keep_to_permitted_columns (m := account) rfl rfl rfl executed
    refine ⟨r, deliveries, after, new, executed, found, ?_, ?_⟩
    · cases present : new.get? "role" with
      | none => rfl
      | some value =>
        rcases confined.inserted 2 new rfl found "role" value present with may | ⟨assigned, _⟩
        · exact absurd may (not_mayWrite_role .create nofun)
        · exact absurd assigned (by decide)
    · rcases confined.inserted 2 new rfl found "id" key has with may | ⟨_, assigned⟩
      · exact absurd may.1 (by decide +kernel)
      · have last : key = .int (accounts.keyBefore after.store "account" "id" 2 + 1) := assigned
        rw [greatest] at last
        rw [has, last]
        rfl

end Accounts

end GuardedQuery
