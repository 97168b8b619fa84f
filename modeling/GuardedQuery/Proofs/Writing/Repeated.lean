import GuardedQuery.Proofs.Writing.Events
import GuardedQuery.Proofs.Writing.Lookups

/-! Looking a row up, creating it on a miss, and looking it up again. What has been created is found
by the same request unless its lookup gives a list of keys, which is stored as it is but compared
item by item, so that the row is created again. Besides, a row that was there before can come into
the scope of the caller through the new one. -/

namespace GuardedQuery

namespace Access
variable {a : Access} {o : Outline} {nested : Option Shower} {m : Model} {model : String}
  {row : Row} {s after : Store}

/-- Whatever is shown of a row, its primary key stays in its place. -/
theorem key_of_showFields {fields : List String} {shown result : Row}
    (ran : (a.showFields o nested m model row fields shown).run s = (.ok result, after)) :
    result.get? m.schema.key = shown.get? m.schema.key := by
  induction fields generalizing shown s with
  | nil =>
    cases ran
    rfl
  | cons field rest ih =>
    obtain ⟨value, between, made, ran⟩ := Script.run_bind_ok ran
    cases value with
    | none => exact ih ran
    | some value =>
      rw [ih ran, Entries.get?_insert_of_ne]
      -- the key itself has no value to show among the fields
      rintro rfl
      rw [fieldValue, if_pos rfl] at made
      cases made

theorem key_of_present {levels : Nat} {shown : Value} (found : a.catalog.get model = .ok m)
    (ran : (a.present o levels model row).run s = (.ok shown, after)) :
    shown.field? m.schema.key = some ((row.get? m.schema.key).getD .null) := by
  have rows (nested : Option Shower)
      (ran : (a.showRow o nested model row).run s = (.ok shown, after)) :
      shown.field? m.schema.key = some ((row.get? m.schema.key).getD .null) := by
    unfold showRow at ran
    obtain ⟨m', known, ran⟩ := Script.run_check_ok ran
    obtain rfl := Except.ok.inj (found.symm.trans known)
    obtain ⟨fields, between, made, ran⟩ := Script.run_bind_ok ran
    cases ran
    rw [Value.field?, key_of_showFields made, Entries.get?_cons, if_pos rfl]
  cases levels with
  | zero => exact rows _ ran
  | succ levels => exact rows _ ran

/-- The selection of a query that asks for nothing in particular is the scope. -/
theorem Plans.predicate_of_scope {q : Query} {p : Plan} (plans : a.Plans model q p)
    (unfiltered : q.filter = .empty) (unsearched : q.search = none)
    (included : q.exclude = .empty) :
    p.selection.predicate = ((p.model.scope a.request (.ofModel model)).narrow .all).predicate := by
  obtain ⟨filter, read, ⟨_, arranged⟩ | ⟨excludes, _⟩⟩ :=
    selection_cases plans.found plans.selected
  · rw [unfiltered] at read
    cases read
    rw [arranged.2, searched, narrowBySearch, unsearched]
    rfl
  · rw [included] at excludes
    cases excludes

end Access

namespace Plan
variable {p : Plan} {s : Store} {row : Row}

/-- What is shown of a row depends on the tables, not on the transaction that it is shown in. -/
theorem present_again {shown : Value} (shows : (p.present row).run s = (.ok shown, s)) :
    (p.present row).run s.commit.begin = (.ok shown, s.commit.begin) := by
  have reads : (p.present row).Asks fun c => c.isWrite = false :=
    Access.asks_present (fun _ _ _ => rfl) _ _ row
  have alike : (p.present row).Asks fun c =>
      c.isWrite = false ∧ (s.commit.begin.answer c).1 = (s.answer c).1 :=
    Access.asks_present (fun _ _ _ => ⟨rfl, rfl⟩) _ _ row
  refine Prod.ext ?_ (Script.run_reads reads)
  rw [Script.run_congr alike, shows]

end Plan

namespace Engine
variable {e : Engine} {st st' : State} {model : String} {q : Query} {request : Request} {p : Plan}
  {r : Response} {deliveries : List Delivery}

theorem getOrCreate_executed (planned : (e.accessOf request).plan model q = .ok p)
    (op : q.operation = .getOrCreate)
    (executed : e.execute model q request st = (⟨.ok r, deliveries⟩, st')) :
    ∃ w after, p.getOrCreate.run st.store.begin = (.ok w, after) ∧ w.response = r ∧
      st'.store = after.commit := by
  obtain ⟨p', planned', writes⟩ := written_of_executed executed
  obtain rfl := Except.ok.inj (planned.symm.trans planned')
  rw [← (Access.plans_of_plan planned).asked] at op
  obtain ⟨w, after, ran, answered, committed⟩ := writes p.getOrCreate (by rw [handling, op])
  exact ⟨w, after, ran, answered, committed.symm⟩

theorem execute_getOrCreate (planned : (e.accessOf request).plan model q = .ok p)
    (op : q.operation = .getOrCreate) {w : Written} {after : Store}
    (ran : p.getOrCreate.run st.store.begin = (.ok w, after)) (silent : w.events = []) :
    ∃ st', e.execute model q request st = (⟨.ok w.response, []⟩, st') ∧
      st'.store = after.commit := by
  rw [← (Access.plans_of_plan planned).asked] at op
  have writing : e.handling p = .writing p.getOrCreate := by rw [handling, op]
  refine ⟨⟨after.commit, invalidated st.cache p.request p.name w.events⟩, ?_, rfl⟩
  simp only [execute, planned, runPlan, writing, transact, ran]
  rw [silent]
  rfl

/-- What a first request has done: it has put a row that holds what was looked up to the end of the
table, and shown it. -/
structure Creates (p : Plan) (st st' : State) (r : Response) (row : Row) : Prop where
  missed : p.lookUp.run st.store.begin = (.ok none, st.store.begin)
  appended : ∃ n, (st'.store.table p.name).rows = (st.store.table p.name).rows ++ [(n, row)]
  others : ∀ other, other ≠ p.name → st'.store.table other = st.store.table other
  held : ∀ entry ∈ p.query.lookup, row.get? entry.1 = some entry.2
  shown : (p.present row).run st'.store.begin = (.ok r.data, st'.store.begin)

theorem creates_of_executed (same : st.store.catalog = e.catalog)
    (planned : (e.accessOf request).plan model q = .ok p) (op : q.operation = .getOrCreate)
    (first : p.model.beforeHooks = []) (last : p.model.afterHooks = [])
    (looksUp : q.LooksUp p.model request)
    (executed : e.execute model q request st = (⟨.ok r, deliveries⟩, st'))
    (created : r.flags.get? "created" = some (.bool true)) :
    ∃ row, Creates p st st' r row := by
  have plans := Access.plans_of_plan planned
  obtain rfl := plans.named.symm
  obtain rfl := plans.asked.symm
  obtain ⟨w, after, ran, rfl, committed⟩ := getOrCreate_executed planned op executed
  have known : st.store.begin.model p.name = .ok p.model := Store.model_of_get same plans.found
  rcases Plan.getOrCreate_cases ran with ⟨row, shown, _, _, _, _, rfl⟩ |
    ⟨row, shown, missed, made, shows, rfl⟩
  · cases (Entries.get?_insert_self _ _ _).symm.trans created
  · replace looksUp : p.query.LooksUp p.model p.request := by rwa [plans.requested]
    obtain ⟨appended, others, held⟩ :=
      Plan.createMissing_ok looksUp plans.listed known first last made
    refine ⟨row, missed, ?_, ?_, held, ?_⟩
    · rw [committed]
      exact appended
    · rw [committed]
      exact others
    · rw [committed]
      exact Plan.present_again shows

namespace Creates
variable {row : Row}

/-- The created row is the only new one. -/
theorem eq_of_fresh (creates : Creates p st st' r row) {n : Nat} {new : Row}
    (fresh : st.store.rowAt p.name n = none) (stored : st'.store.rowAt p.name n = some new) :
    new = row := by
  obtain ⟨k, appended⟩ := creates.appended
  rw [Store.rowAt, appended, List.lookup_append] at stored
  rw [Store.rowAt] at fresh
  rw [fresh, Option.none_or, List.lookup_cons] at stored
  split at stored
  · exact (Option.some.inj stored).symm
  · cases stored

theorem stored (creates : Creates p st st' r row) : st'.store.Stored p.name row := by
  obtain ⟨k, appended⟩ := creates.appended
  rw [Store.Stored, Store.Table.values, appended, List.map_append]
  exact List.mem_append_right _ List.mem_cons_self

/-- The created row is different from all rows that were there. -/
theorem ne_of_earlier (creates : Creates p st st' r row)
    (table : (st'.store.table p.name).Indexed p.model.schema.key) {k : Nat} {old : Row}
    (earlier : (k, old) ∈ (st.store.table p.name).rows) : old ≠ row := by
  rintro rfl
  obtain ⟨n, appended⟩ := creates.appended
  have order := table.ordered
  rw [appended, List.pairwise_append] at order
  have lt := order.2.2 (k, old) earlier (n, old) List.mem_cons_self
  obtain ⟨key, own, _, numbered⟩ := table.keyed (k, old) (by
    rw [appended]
    exact List.mem_append_left _ earlier)
  obtain ⟨key', own', _, numbered'⟩ := table.keyed (n, old) (by
    rw [appended]
    exact List.mem_append_right _ List.mem_cons_self)
  obtain rfl := Option.some.inj (own.symm.trans own')
  exact Nat.ne_of_lt lt (Option.some.inj (numbered.symm.trans numbered'))

theorem key_shown (creates : Creates p st st' r row)
    (found : p.access.catalog.get p.name = .ok p.model)
    (table : (st'.store.table p.name).Indexed p.model.schema.key) :
    r.data.field? p.model.schema.key = row.get? p.model.schema.key := by
  obtain ⟨entry, mem, same⟩ := List.mem_map.1 creates.stored
  obtain ⟨key, own, _⟩ := table.keyed entry mem
  rw [same] at own
  rw [Access.key_of_present found creates.shown, own]
  rfl

/-- What the same request does afterwards: it finds the created row if its lookup accepts that row
and turns all others down. -/
theorem finds_again (creates : Creates p st st' r row) (closed : e.catalog.Closed)
    (same : st'.store.catalog = e.catalog)
    (planned : (e.accessOf request).plan p.name p.query = .ok p)
    (op : p.query.operation = .getOrCreate) {wanted : Predicate}
    (read : p.lookupPredicate = .ok wanted) (readable : p.requireRow row .read = .ok ())
    (accepted : st'.store.Accepts p.name row (p.lookupSelection wanted).predicate)
    (missed : ∀ old, st.store.Stored p.name old →
      st'.store.Rejects p.name old (p.lookupSelection wanted).predicate) :
    ∃ r' st'', e.execute p.name p.query request st' = (⟨.ok r', []⟩, st'') ∧
      r'.flags.get? "created" = some (.bool false) ∧ r'.data = r.data ∧
      st''.store.tables = st'.store.tables := by
  have plans := Access.plans_of_plan planned
  have known : st'.store.begin.model p.name = .ok p.model := Store.model_of_get same plans.found
  obtain ⟨n, appended⟩ := creates.appended
  have values : (st'.store.begin.table p.name).values =
      (st.store.table p.name).values ++ [row] := by
    change (st'.store.table p.name).rows.map Prod.snd = _
    rw [appended, List.map_append]
    rfl
  have found := Plan.lookUp_last plans.about (Access.unbounded_selection plans.selected)
    (by rw [← same] at closed; exact closed) known read values
    (fun old mem => (Store.holds_begin _ _).trans (missed old mem))
    ((Store.holds_begin _ _).trans accepted)
  obtain ⟨st'', executed, store⟩ := execute_getOrCreate planned op
    (Plan.getOrCreate_of_lookUp found readable creates.shown) rfl
  exact ⟨_, st'', executed, Entries.get?_insert_self _ _ _, rfl, by rw [store]; rfl⟩

/-- Afterwards only the created row can be found and shown with its key. -/
theorem of_found_again (creates : Creates p st st' r row)
    (table : (st'.store.table p.name).Indexed p.model.schema.key)
    (planned : (e.accessOf request).plan p.name p.query = .ok p)
    (op : p.query.operation = .getOrCreate) {r' : Response} {st'' : State}
    (executed : e.execute p.name p.query request st' = (⟨.ok r', deliveries⟩, st''))
    (found : r'.flags.get? "created" = some (.bool false))
    (key : r'.data.field? p.model.schema.key = row.get? p.model.schema.key) :
    ∃ wanted, p.lookupPredicate = .ok wanted ∧
      st'.store.Accepts p.name row (p.lookupSelection wanted).predicate ∧
      ∀ old, st.store.Stored p.name old →
        st'.store.Rejects p.name old (p.lookupSelection wanted).predicate := by
  have plans := Access.plans_of_plan planned
  obtain ⟨w, after, ran, rfl, _⟩ := getOrCreate_executed planned op executed
  rcases Plan.getOrCreate_cases ran with ⟨hit, shown, looked, _, shows, _, rfl⟩ |
    ⟨_, _, _, _, _, rfl⟩
  · obtain ⟨wanted, read, accepted, others⟩ := Plan.found_or_rejects plans.about
      (Access.unbounded_selection plans.selected) looked
    obtain ⟨stored, accepts⟩ := accepted hit rfl
    -- the row that has been found has the key of the created one, so it is that row
    obtain rfl : hit = row := by
      obtain ⟨entry, mem, rfl⟩ := List.mem_map.1 stored
      obtain ⟨other, among, rfl⟩ := List.mem_map.1 creates.stored
      obtain ⟨own, its, _⟩ := table.keyed entry mem
      have displayed : shown.field? p.model.schema.key = some own := by
        rw [Access.key_of_present plans.listed shows, its]
        rfl
      have its' := key.symm.trans displayed
      exact Option.some.inj ((table.get?_of_mem mem its).symm.trans (table.get?_of_mem among its'))
    refine ⟨wanted, read, (Store.holds_begin _ _).symm.trans accepts, fun old earlier => ?_⟩
    obtain ⟨entry, mem, rfl⟩ := List.mem_map.1 earlier
    obtain ⟨n, appended⟩ := creates.appended
    have kept : st'.store.Stored p.name entry.2 := by
      rw [Store.Stored, Store.Table.values, appended, List.map_append]
      exact List.mem_append_left _ earlier
    rcases others entry.2 kept with again | rejected
    · exact absurd (Option.some.inj again).symm (creates.ne_of_earlier table mem)
    · exact (Store.holds_begin _ _).symm.trans rejected
  · cases (Entries.get?_insert_self _ _ _).symm.trans found

/-- The rows that were there are still turned down if no condition of the scope depends on the rows
of the model itself. -/
theorem misses_earlier (creates : Creates p st st' r row) (same : st.store.catalog = e.catalog)
    (same' : st'.store.catalog = e.catalog)
    (planned : (e.accessOf request).plan p.name p.query = .ok p)
    (looksUp : p.query.LooksUp p.model request) (unfiltered : p.query.filter = .empty)
    (unsearched : p.query.search = none) (included : p.query.exclude = .empty)
    (avoids : ∀ c ∈ (p.model.scope request (.ofModel p.name)).predicate.conditions,
      e.catalog.Avoids p.name p.name c.segments) {old : Row}
    (earlier : st.store.Stored p.name old) : p.Misses st'.store old := by
  have plans := Access.plans_of_plan planned
  obtain ⟨wanted, read, _, others⟩ := Plan.found_or_rejects plans.about
    (Access.unbounded_selection plans.selected) creates.missed
  have rejected : st.store.Rejects p.name old (p.lookupSelection wanted).predicate :=
    (Store.holds_begin _ _).symm.trans ((others old earlier).resolve_left nofun)
  have apart : st.store.Apart p.name st'.store := ⟨same'.trans same.symm, creates.others⟩
  refine ⟨wanted, read, (apart.holds (fun c mem => ?_) old).trans rejected⟩
  rw [same]
  obtain ⟨_, among, inside⟩ := Predicate.exists_of_mem_allOf mem
  rcases List.mem_pair.1 among with rfl | rfl
  · rw [plans.predicate_of_scope unfiltered unsearched included] at inside
    obtain ⟨_, among, scope⟩ := Predicate.exists_of_mem_allOf inside
    rcases List.mem_pair.1 among with rfl | rfl
    · exact avoids c scope
    · cases scope
  · exact Plan.avoids_lookup plans.found looksUp read inside p.name

end Creates

/-- A request that has created a row finds it again, shows its key and leaves all tables as they are
if and only if no column that holds a list of keys has been looked up, other than for null, and the
lookup still turns down the rows that were there before. The latter is so if no condition of the
caller's scope leads back to the model. -/
theorem repeated_lookup_finds_its_row_iff {models : List Model}
    (built : Catalog.build models = .ok e.catalog) (grown : st.store.Grown e.catalog)
    (planned : (e.accessOf request).plan model q = .ok p) (op : q.operation = .getOrCreate)
    (unfiltered : q.filter = .empty) (included : q.exclude = .empty) (unsearched : q.search = none)
    (first : p.model.beforeHooks = []) (last : p.model.afterHooks = [])
    (looksUp : q.LooksUp p.model request)
    (executed : e.execute model q request st = (⟨.ok r, deliveries⟩, st'))
    (created : r.flags.get? "created" = some (.bool true)) {n : Nat} {row : Row}
    (fresh : st.store.rowAt model n = none) (stored : st'.store.rowAt model n = some row)
    (inScope : st'.store.Accepts model row (p.model.scope request (.ofModel model)).predicate)
    (readable : p.model.allowsRow request .read row = true) :
    r.data.field? p.model.schema.key = row.get? p.model.schema.key ∧
      ((∃ r' st'', e.execute model q request st' = (⟨.ok r', []⟩, st'') ∧
          r'.flags.get? "created" = some (.bool false) ∧
          r'.data.field? p.model.schema.key = r.data.field? p.model.schema.key ∧
          st''.store.tables = st'.store.tables) ↔
        (∀ entry ∈ q.lookup, ∀ target, p.model.schema.kind? entry.1 = some (.toMany target) →
          entry.2.isNull = true) ∧
        ∀ old, st.store.Stored model old → p.Misses st'.store old) ∧
      ((∀ c ∈ (p.model.scope request (.ofModel model)).predicate.conditions,
          e.catalog.Avoids model model c.segments) →
        ∀ old, st.store.Stored model old → p.Misses st'.store old) := by
  have plans := Access.plans_of_plan planned
  obtain rfl := plans.named.symm
  obtain rfl := plans.asked.symm
  obtain ⟨same, _⟩ := grown.spec
  have grown' : (e.execute p.name p.query request st).2.store.Grown e.catalog :=
    grown_execute grown
  rw [executed] at grown'
  obtain ⟨same', indexed⟩ := grown'.spec
  have known : st'.store.model p.name = .ok p.model := Store.model_of_get same' plans.found
  have table := indexed.table known
  obtain ⟨made, creates⟩ :=
    creates_of_executed same planned op first last looksUp executed created
  obtain rfl := creates.eq_of_fresh fresh stored
  have shown := creates.key_shown plans.listed table
  -- within the scope, the lookup accepts what it accepts of the row by itself
  have accepts {wanted : Predicate} (read : p.lookupPredicate = .ok wanted) :
      st'.store.Accepts p.name row (p.lookupSelection wanted).predicate ↔
        ∀ entry ∈ p.query.lookup, ∀ target,
          p.model.schema.kind? entry.1 = some (.toMany target) → entry.2.isNull = true := by
    refine Store.accepts_narrow_iff.trans ?_
    rw [plans.predicate_of_scope unfiltered unsearched included, Store.accepts_narrow_iff,
      Plan.accepts_lookup_iff known (by rwa [plans.requested]) read creates.held]
    exact and_iff_right ⟨inScope, Store.accepts_all⟩
  refine ⟨shown, ⟨?_, ?_⟩, fun avoids old earlier => creates.misses_earlier same same' planned
    looksUp unfiltered unsearched included avoids earlier⟩
  · rintro ⟨r', st'', again, found, key, _⟩
    obtain ⟨wanted, read, accepted, missed⟩ :=
      creates.of_found_again table planned op again found (key.trans shown)
    exact ⟨(accepts read).1 accepted, fun old earlier => ⟨wanted, read, missed old earlier⟩⟩
  · rintro ⟨single, missed⟩
    obtain ⟨wanted, read, _⟩ := Plan.found_or_rejects plans.about
      (Access.unbounded_selection plans.selected) creates.missed
    obtain ⟨r', st'', again, found, data, tables⟩ :=
      creates.finds_again (Catalog.closed_of_build built) same' planned op read
        ((Access.requireRow_ok_iff plans.listed).2 (by rwa [plans.accessed]))
        ((accepts read).2 single) fun old earlier => by
          obtain ⟨wanted', read', rejected⟩ := missed old earlier
          obtain rfl := Except.ok.inj (read.symm.trans read')
          exact rejected
    exact ⟨r', st'', again, found, by rw [data], tables⟩

end Engine

/-! Articles with a title and a list of tags, which everyone may look up and create -/

namespace Articles

def tag : Model := { Model.ofSchema (Schema.ofKey "tag" "id") with guards := [.allowAll] }

def article : Model :=
  { Model.ofSchema (((Schema.ofKey "article" "id").withField ⟨"tags", .toMany "tag"⟩).withField
      ⟨"title", .scalar⟩) with
    guards := [.allowAll] }

def engine : Engine :=
  ⟨⟨.ofList [("tag", tag), ("article", article)]⟩, .default, none, fun _ => .ok ()⟩

/-- Two tags are stored, and no article. -/
def tags : Store :=
  ((Store.ofCatalog engine.catalog).answer
    (.insertMany "tag" [[("id", .int 1)], [("id", .int 2)]])).2

def state : Engine.State := ⟨tags, .ofSettings .default⟩

theorem tags_grown : tags.Grown engine.catalog := .answer .new _

def lookingUp (lookup : Row) : Query := { Query.plain .getOrCreate with lookup }

def tagged : Query := lookingUp [("tags", .arr [.int 1, .int 2])]

def untagged : Query := lookingUp [("tags", .null), ("title", .str "a")]

theorem looksUp {lookup : Row} (names : ∀ name ∈ lookup.names, name ∈ ["tags", "title"])
    (distinct : lookup.names.Nodup) (finite : ∀ entry ∈ lookup, entry.2.Finite) :
    (lookingUp lookup).LooksUp article .anonymous where
  single name mem := by
    have each : ∀ name ∈ ["tags", "title"], Path.separators name = 0 := by decide
    exact each name (names name mem)
  apart name mem := by
    have each : ∀ name ∈ ["tags", "title"], article.isKey name = false := by decide
    exact each name (names name mem)
  writable name mem := by
    have each : ∀ name ∈ ["tags", "title"], name ∈ article.fields .anonymous .create ∧
        name ∈ article.schema.columns := by decide +kernel
    exact each name (names name mem)
  distinct := distinct
  own _ _ := List.not_mem_nil
  finite := finite

theorem tagged_looksUp : tagged.LooksUp article .anonymous := by
  refine looksUp (by decide) (by decide) (List.forall_mem_singleton.2 (.arr fun item mem => ?_))
  rcases List.mem_pair.1 mem with rfl | rfl <;> exact .int _

theorem untagged_looksUp : untagged.LooksUp article .anonymous :=
  looksUp (by decide) (by decide)
    (List.forall_mem_cons.2 ⟨.null, List.forall_mem_singleton.2 (.str _)⟩)

/-- The state after a request. -/
def after (q : Query) (st : Engine.State) : Engine.State :=
  (engine.execute "article" q .anonymous st).2

/-- What a request tells of whether it has created its row. -/
def created? (q : Query) (st : Engine.State) : Option Bool :=
  ((engine.execute "article" q .anonymous st).1.answer.toOption.bind
    fun r => r.flags.get? "created").bind Value.bool?

theorem executed_of_created? {q : Query} {st : Engine.State} {b : Bool}
    (told : created? q st = some b) :
    ∃ r deliveries, engine.execute "article" q .anonymous st = (⟨.ok r, deliveries⟩, after q st) ∧
      r.flags.get? "created" = some (.bool b) := by
  match executed : engine.execute "article" q .anonymous st with
  | (⟨.ok r, deliveries⟩, st') =>
    rw [created?, executed] at told
    obtain ⟨flag, there, is⟩ := Option.bind_eq_some_iff.1 told
    refine ⟨r, deliveries, by rw [after, executed], ?_⟩
    cases flag with
    | bool flag =>
      cases is
      exact there
    | null | num | str | arr | obj => cases is
  | (⟨.error fault, deliveries⟩, st') =>
    rw [created?, executed] at told
    cases told

theorem everyone_sees (s : Store) (row : Row) :
    s.Accepts "article" row (article.scope .anonymous (.ofModel "article")).predicate := by
  have whole : (article.scope .anonymous (.ofModel "article")).predicate = .all := rfl
  rw [whole]
  exact Store.accepts_all

/-- An article without tags is found again. -/
theorem untagged_article_is_created_once :
    ∃ r deliveries r' st'',
      engine.execute "article" untagged .anonymous state =
        (⟨.ok r, deliveries⟩, after untagged state) ∧
      engine.execute "article" untagged .anonymous (after untagged state) = (⟨.ok r', []⟩, st'') ∧
      r.flags.get? "created" = some (.bool true) ∧ r'.flags.get? "created" = some (.bool false) ∧
      r'.data.field? "id" = r.data.field? "id" ∧
      st''.store.tables = (after untagged state).store.tables := by
  obtain ⟨r, deliveries, executed, created⟩ :=
    executed_of_created? (by decide +kernel : created? untagged state = some true)
  obtain ⟨p, planned, _⟩ := Engine.written_of_executed executed
  have own : p.model = article :=
    Except.ok.inj ((Access.plans_of_plan planned).found.symm.trans
      (rfl : engine.catalog.get "article" = .ok article))
  obtain ⟨row, stored⟩ := Option.isSome_iff_exists.1
    (by decide +kernel : ((after untagged state).store.rowAt "article" 1).isSome = true)
  have built : Catalog.build [tag, article] = .ok engine.catalog := rfl
  obtain ⟨_, again, missed⟩ := Engine.repeated_lookup_finds_its_row_iff built tags_grown planned
    rfl rfl rfl rfl (by rw [own]; rfl) (by rw [own]; rfl)
    (by rw [own]; exact untagged_looksUp) executed created (n := 1) rfl stored
    (by rw [own]; exact everyone_sees _ _) (by rw [own]; rfl)
  rw [own] at again missed
  have single : ∀ entry ∈ untagged.lookup, ∀ target,
      article.schema.kind? entry.1 = some (.toMany target) → entry.2.isNull = true := by
    refine List.forall_mem_cons.2 ⟨fun _ _ => rfl,
      List.forall_mem_singleton.2 fun target many => ?_⟩
    cases (rfl : article.schema.kind? "title" = some .scalar).symm.trans many
  obtain ⟨r', st'', executed', found, key, kept⟩ :=
    again.2 ⟨single, missed fun c mem => nomatch mem⟩
  exact ⟨r, deliveries, r', st'', executed, executed', created, found, key, kept⟩

/-- An article with tags is created twice, and the tables hold both of them. -/
theorem tagged_article_is_created_twice :
    Catalog.build [tag, article] = .ok engine.catalog ∧ state.store.Grown engine.catalog ∧
    article.beforeHooks = [] ∧ article.afterHooks = [] ∧ tagged.LooksUp article .anonymous ∧
    ∃ r deliveries row, engine.execute "article" tagged .anonymous state =
        (⟨.ok r, deliveries⟩, after tagged state) ∧
      r.flags.get? "created" = some (.bool true) ∧
      state.store.rowAt "article" 1 = none ∧
      (after tagged state).store.rowAt "article" 1 = some row ∧
      (after tagged state).store.Accepts "article" row
        (article.scope .anonymous (.ofModel "article")).predicate ∧
      article.allowsRow .anonymous .read row = true ∧
      ∃ r' deliveries', engine.execute "article" tagged .anonymous (after tagged state) =
          (⟨.ok r', deliveries'⟩, after tagged (after tagged state)) ∧
        r'.flags.get? "created" = some (.bool true) ∧
        ((after tagged (after tagged state)).store.rowAt "article" 2).isSome = true := by
  obtain ⟨r, deliveries, executed, created⟩ :=
    executed_of_created? (by decide +kernel : created? tagged state = some true)
  obtain ⟨r', deliveries', executed', created'⟩ :=
    executed_of_created?
      (by decide +kernel : created? tagged (after tagged state) = some true)
  obtain ⟨row, stored⟩ := Option.isSome_iff_exists.1
    (by decide +kernel : ((after tagged state).store.rowAt "article" 1).isSome = true)
  exact ⟨rfl, tags_grown, rfl, rfl, tagged_looksUp, r, deliveries, row, executed, created, rfl,
    stored, everyone_sees _ _, rfl, r', deliveries', executed', created', by decide +kernel⟩

end Articles

end GuardedQuery
