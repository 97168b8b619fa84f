import GuardedQuery.Proofs.Engine.Atomicity
import GuardedQuery.Proofs.Engine.Courses
import GuardedQuery.Proofs.Engine.Dependencies

/-! The cache does not show. Over a sequence of requests of one transaction, whatever is cached is
what its inquiries would come to at present: an inquiry is linked under all models that its answer
depends on, a write reaches one model, and what is linked under it is dropped with the commit. So
the answers and the store are those of an engine that caches nothing, wherever values leave the
cache. -/

namespace GuardedQuery

namespace Engine

/-! Without a cache -/

/-- A cache that is turned off. -/
def Disabled (c : Cache) : Prop := c.settings.enabled = false

theorem disabled_ofSettings (settings : CacheSettings) :
    Disabled (.ofSettings { settings with enabled := false }) := rfl

theorem Disabled.run {α : Type} (course : Course α) {c : Cache} (off : Disabled c) (s : Store) :
    ∃ d, course.run.run ⟨s, c⟩ = ((course.plain s).1, ⟨(course.plain s).2, d⟩) ∧ Disabled d := by
  have unnamed : course.All fun inquiry => c.settings.enabled = true → inquiry.job.key = none :=
    Course.all_of_forall (fun _ on => absurd on (by rw [off]; decide)) course
  obtain ⟨d, ran, same⟩ := Course.run_unnamed unnamed rfl s
  exact ⟨d, ran, (congrArg CacheSettings.enabled same).trans off⟩

/-! What is asked -/

/-- Some of the requests comes to make an inquiry about a subject. -/
def Asked (e : Engine) (demands : List Demand) (inquiry : Inquiry) (subject : Subject) : Prop :=
  ∃ d ∈ demands, ∃ p, e.planOf d = .ok p ∧ e.Asks p inquiry subject

/-- Inquiries of the requests have the same key only if they are about the same. -/
def KeysTell (e : Engine) (demands : List Demand) : Prop :=
  ∀ (inquiry inquiry' : Inquiry) (subject subject' : Subject) (key : String),
    e.Asked demands inquiry subject → e.Asked demands inquiry' subject' →
    inquiry.job.key = some key → inquiry'.job.key = some key → subject = subject'

variable {e : Engine} {demands : List Demand} {inquiry : Inquiry} {subject : Subject}

theorem Asked.about (asked : e.Asked demands inquiry subject) :
    About e.catalog inquiry subject := by
  obtain ⟨d, _, p, planned, asks⟩ := asked
  exact asks.about planned

theorem all_aggregateCourse {p : Plan} {P : Inquiry → Prop} {terms : List AggregateTerm}
    (each : ∀ term ∈ terms, ∀ inquiry,
      p.aggregateInquiry term.function term.field = .ok inquiry → P inquiry) (found : Row) :
    (p.aggregateCourse terms found).All P := by
  induction terms generalizing found with
  | nil => trivial
  | cons term rest ih =>
    obtain ⟨here, others⟩ := List.forall_mem_cons.1 each
    exact Course.all_asking here fun value => ih others _

/-- The inquiries of a course are those that its plan comes to make. -/
theorem all_asks {p : Plan} {course : Course Response} (laid : e.course? p = some course) :
    course.All fun inquiry => ∃ subject, e.Asks p inquiry subject := by
  rw [course?] at laid
  cases op : p.query.operation <;> simp only [op] at laid <;> cases laid
  case get | first | last | exist => trivial
  case read =>
    refine Course.all_asking (fun inquiry made => ?_) fun _ => trivial
    obtain ⟨page, cut, _⟩ := Checks.bind_ok_iff.1 made
    exact ⟨_, .list op cut made⟩
  case single function =>
    unfold Plan.singleCourse
    split
    · trivial
    · rename_i field given
      exact Course.all_asking (fun inquiry made => ⟨_, .single op given made⟩) fun _ => trivial
  case aggregate =>
    exact all_aggregateCourse (fun term among inquiry made => ⟨_, .term op among made⟩) []

theorem all_asked {d : Demand} (mem : d ∈ demands) {p : Plan} (planned : e.planOf d = .ok p)
    {course : Course Response} (laid : e.course? p = some course) :
    course.All fun inquiry => ∃ subject, e.Asked demands inquiry subject :=
  (all_asks laid).mono fun _ ⟨subject, asks⟩ => ⟨subject, d, mem, p, planned, asks⟩

/-- Requests of one transaction whose keys tell their inquiries apart, on a catalog where neither
keys nor the names of relations get in the way of listing dependencies. -/
structure Session (e : Engine) (transaction : String) (demands : List Demand) : Prop where
  keys : e.catalog.PlainKeys
  relations : e.catalog.PlainRelations
  within : ∀ d ∈ demands, d.request.transaction = some transaction
  tell : e.KeysTell demands

variable {transaction : String}

theorem Session.job_transaction (session : e.Session transaction demands)
    (asked : e.Asked demands inquiry subject) : inquiry.job.transaction = transaction := by
  obtain ⟨d, mem, p, planned, asks⟩ := asked
  have own : p.request = d.request :=
    congrArg Access.request (Access.plans_of_plan planned).accessed
  rw [asks.transaction, own, session.within d mem, Option.getD_some]

/-! What is cached -/

/-- The value is what the inquiries of a key come to at present, and the scopes name all models that
they are linked under. -/
def Fresh (e : Engine) (demands : List Demand) (transaction : String) (s : Store) (key : String)
    (value : Value) (scopes : List Cache.Scope) : Prop :=
  ∀ inquiry subject, e.Asked demands inquiry subject → inquiry.job.key = some key →
    (inquiry.script.run s).1 = .ok value ∧
      ∀ model ∈ inquiry.job.models, ⟨transaction, model⟩ ∈ scopes

variable {s s' : Store} {key : String} {value : Value}

theorem fresh_of_computed (tell : e.KeysTell demands) (asked : e.Asked demands inquiry subject)
    (named : inquiry.job.key = some key) (computed : (inquiry.script.run s).1 = .ok value) :
    e.Fresh demands transaction s key value
      (inquiry.job.models.toList.map fun model => ⟨transaction, model⟩) := by
  intro other subject' asked' named'
  -- Whoever asks under this key asks about the same, and subjects do not know who asks.
  obtain rfl := tell _ _ _ _ key asked asked' named named'
  have about := asked.about
  have about' := asked'.about
  refine ⟨?_, fun model mem => ?_⟩
  · rwa [about'.script, ← about.script]
  · rw [Except.ok.inj (about'.models.symm.trans about.models)] at mem
    exact List.mem_map.2 ⟨model, mem, rfl⟩

/-- A value stays fresh while the models that it is linked under stay as they are. -/
theorem Fresh.of_agree {scopes : List Cache.Scope} (session : e.Session transaction demands)
    (same : s.catalog = e.catalog) (fresh : e.Fresh demands transaction s key value scopes)
    (agree : ∀ models : NameSet, (∀ model ∈ models, ⟨transaction, model⟩ ∈ scopes) →
      s.Agree models s') : e.Fresh demands transaction s' key value scopes := by
  intro inquiry subject asked named
  obtain ⟨computed, linked⟩ := fresh inquiry subject asked named
  have about := asked.about
  refine ⟨?_, linked⟩
  rw [about.script] at computed ⊢
  rw [Subject.run_eq session.keys session.relations about.models same
    (agree inquiry.job.models linked), computed]

/-! One request -/

/-- An inquiry is answered as if it were computed, and leaves the cache fresh. -/
theorem calls_fresh (session : e.Session transaction demands)
    (asked : e.Asked demands inquiry subject) {c d : Cache} {outcome : Except Error Value}
    (watched : c.Watched (e.Fresh demands transaction s))
    (calls : Cache.Calls inquiry.job inquiry.script.run c s outcome d s') :
    inquiry.script.run s = (outcome, s') ∧ s' = s ∧
      d.Watched (e.Fresh demands transaction s) := by
  have kept : (inquiry.script.run s).2 = s := Script.run_reads asked.about.reads
  cases calls with
  | @answered begun _ _ _ before started behind =>
    have still := before.watched watched
    obtain ⟨begins, same⟩ := begun.start_begins inquiry.job
    rw [started] at begins same
    cases begins with
    | hit named found =>
      obtain ⟨scopes, fresh⟩ := still.value found
      obtain ⟨computed, _⟩ := fresh inquiry subject asked (Cache.keyOf_eq_some named)
      exact ⟨Prod.ext computed kept, rfl, behind.watched (still.alike same)⟩
  | @computed begun _ left _ phase before started computes during behind =>
    have still := before.watched watched
    obtain ⟨begins, same⟩ := begun.start_begins inquiry.job
    rw [started] at begins same
    have missed := during.watched (still.alike same)
    have settings : left.settings = begun.settings := during.settings.trans same.settings
    obtain ⟨_, stores⟩ := begins.finish left settings (inquiry.script.run s).1 computes
    refine ⟨rfl, kept, behind.watched ?_⟩
    cases stores with
    | nothing alike => exact missed.alike alike
    | value named computed alike =>
      refine (missed.put ?_).alike alike
      rw [session.job_transaction asked]
      exact fresh_of_computed session.tell asked (Cache.keyOf_eq_some named) computed

/-- A course goes as it would without a cache. -/
theorem goes_plain (session : e.Session transaction demands) {α : Type} {course : Course α}
    (all : course.All fun inquiry => ∃ subject, e.Asked demands inquiry subject)
    {st st' : State} {result : Except Error α} (goes : course.Goes st result st')
    (watched : st.cache.Watched (e.Fresh demands transaction st.store)) :
    course.plain st.store = (result, st'.store) ∧
      st'.cache.Watched (e.Fresh demands transaction st.store) := by
  induction goes with
  | done => exact ⟨rfl, watched⟩
  | script => exact ⟨rfl, watched⟩
  | asked calls _ ih =>
    obtain ⟨⟨subject, asked⟩, others⟩ := all
    obtain ⟨ran, rfl, still⟩ := calls_fresh session asked watched calls
    obtain ⟨plain, last⟩ := ih (others _) still
    refine ⟨?_, last⟩
    rw [Course.plain, ran]
    exact plain
  | failed calls =>
    obtain ⟨⟨subject, asked⟩, others⟩ := all
    obtain ⟨ran, rfl, still⟩ := calls_fresh session asked watched calls
    refine ⟨?_, still⟩
    rw [Course.plain, ran]

theorem settings_dropped (cache : Cache) (request : Request) (model : String)
    (events : List Event) : (dropped cache request model events).settings = cache.settings := by
  have removed (keys : List String) (c : Cache) :
      (keys.foldl Cache.remove c).settings = c.settings :=
    (Cache.Erodes.foldl_remove keys c).settings
  unfold dropped
  cases request.transaction with
  | none => rfl
  | some transaction =>
    cases events.isEmpty with
    | true => rfl
    | false => exact removed _ _

theorem Disabled.invalidated {c : Cache} (off : Disabled c) (request : Request) (model : String)
    (events : List Event) : Disabled (Engine.invalidated c request model events) := by
  rw [Disabled, (dropped_erodes c request model events).settings, settings_dropped]
  exact off

/-- What a commit leaves in the cache is fresh on the store that it leaves. -/
theorem watched_dropped (session : e.Session transaction demands) {p : Plan} {after : Store}
    {events : List Event} {c : Cache} (same : s.catalog = e.catalog)
    (own : p.request.transaction = some transaction) (about : p.selection.model = p.name)
    (catalog : after.catalog = s.catalog) (writes : p.Writes s.begin after events)
    (watched : c.Watched (e.Fresh demands transaction s)) :
    (dropped c p.request p.name events).Watched (e.Fresh demands transaction after.commit) := by
  unfold dropped
  rw [own]
  cases silent : events.isEmpty with
  | true =>
    -- Nothing is dropped, and nothing has been written.
    refine watched.mono fun key value scopes fresh => fresh.of_agree session same fun _ _ => ?_
    exact ⟨catalog, fun model _ => writes.table_of_silent (List.isEmpty_iff.1 silent) model⟩
  | false =>
    -- What stays is not linked under the model that has been written.
    refine (watched.invalidate transaction p.name).mono fun key value scopes ⟨fresh, unlinked⟩ =>
      fresh.of_agree session same fun models linked => ⟨catalog, fun model mem => ?_⟩
    refine (writes.effect about).others ?_
    rintro rfl
    exact unlinked (linked p.name mem)

/-- A request is answered as by an engine without a cache, and what is cached stays fresh. -/
theorem execute_of_executes (session : e.Session transaction demands) {d : Demand}
    (mem : d ∈ demands) {st st' : State} {outcome : Outcome} {off : Cache} (disabled : Disabled off)
    (same : st.store.catalog = e.catalog)
    (watched : st.cache.Watched (e.Fresh demands transaction st.store))
    (executes : e.Executes d st outcome st') :
    (∃ off', e.execute d.model d.query d.request ⟨st.store, off⟩ =
      (outcome, ⟨st'.store, off'⟩) ∧ Disabled off') ∧
    st'.store.catalog = e.catalog ∧
      st'.cache.Watched (e.Fresh demands transaction st'.store) := by
  unfold execute
  cases executes with
  | refused turned erodes =>
    rw [planOf] at turned
    rw [turned]
    exact ⟨⟨off, rfl, disabled⟩, same, erodes.watched watched⟩
  | @read p course answer between c planned laid goes behind =>
    have reading := reading_of_course laid
    obtain ⟨plain, last⟩ := goes_plain session (all_asked mem planned laid) goes watched
    obtain ⟨off', ran, still⟩ := disabled.run course st.store
    rw [plain] at ran
    have kept : between.store = st.store := by
      have reads := Run.store_of_asks (fun _ => not_isWrite_of_readsWithin)
        (p.asks_handling reading) ⟨st.store, off⟩
      rwa [ran] at reads
    rw [planOf] at planned
    simp only [planned, runPlan, reading, ran]
    refine ⟨⟨off', rfl, still⟩, kept ▸ same, ?_⟩
    rw [kept]
    exact behind.watched last
  | @wrote p script written after b c planned writing ran before behind =>
    have catalog : after.catalog = st.store.catalog := by
      have kept := script.catalog_run st.store.begin
      rwa [ran] at kept
    rw [planOf] at planned
    have plans := Access.plans_of_plan planned
    have own : p.request.transaction = some transaction := by
      rw [Plan.request, plans.accessed]
      exact session.within d mem
    have writes := Plan.writes_of_run plans.permitted writing ran
    simp only [planned, runPlan, writing, transact, ran]
    refine ⟨⟨_, rfl, disabled.invalidated _ _ _⟩, catalog.trans same, behind.watched ?_⟩
    exact watched_dropped session same own plans.about catalog writes (before.watched watched)
  | @failed p script fault after c planned writing ran erodes =>
    have catalog := script.catalog_run st.store.begin
    have undone := script.tables_rollback st.store
    rw [ran] at catalog undone
    rw [planOf] at planned
    simp only [planned, runPlan, writing, transact, ran]
    refine ⟨⟨off, rfl, disabled⟩, catalog.trans same, erodes.watched ?_⟩
    refine watched.mono fun key value scopes fresh => fresh.of_agree session same fun _ _ => ?_
    refine ⟨catalog, fun model _ => ?_⟩
    rw [Store.table, Store.table, undone]

/-! Sequences of requests -/

theorem serve_of_answers (session : e.Session transaction demands) {st st' : State}
    {asked : List Demand} {outcomes : List Outcome} (answers : e.Answers st asked outcomes st')
    (among : ∀ d ∈ asked, d ∈ demands) {off : Cache} (disabled : Disabled off)
    (same : st.store.catalog = e.catalog)
    (watched : st.cache.Watched (e.Fresh demands transaction st.store)) :
    (e.serve asked ⟨st.store, off⟩).1 = outcomes ∧
      (e.serve asked ⟨st.store, off⟩).2.store = st'.store := by
  induction answers generalizing off with
  | nil => exact ⟨rfl, rfl⟩
  | cons first _ ih =>
    obtain ⟨here, others⟩ := List.forall_mem_cons.1 among
    obtain ⟨⟨off', executed, still⟩, catalog, fresh⟩ :=
      execute_of_executes session here disabled same watched first
    obtain ⟨outcomes, store⟩ := ih others still catalog fresh
    rw [serve, executed]
    exact ⟨congrArg _ outcomes, store⟩

/-- The engine's first state: a store, and nothing cached. -/
def State.fresh (s : Store) (settings : CacheSettings) : State := ⟨s, .ofSettings settings⟩

/-- Where no primary key is a relation and no relation has a name that reads like a path, requests
of one transaction are answered, and leave the store, as if the cache were turned off, as long as
equal keys mean equal subjects. This holds of every way in which values can leave the cache
meanwhile, and of the engine as it is. -/
theorem caching_keeps_answers (e : Engine) (s : Store) (settings : CacheSettings)
    (transaction : String) (demands : List Demand) (same : s.catalog = e.catalog)
    (keys : e.catalog.PlainKeys) (relations : e.catalog.PlainRelations)
    (within : ∀ d ∈ demands, d.request.transaction = some transaction)
    (tell : e.KeysTell demands) :
    (∀ outcomes st', e.Answers (.fresh s settings) demands outcomes st' →
      (e.serve demands (.fresh s { settings with enabled := false })).1 = outcomes ∧
      (e.serve demands (.fresh s { settings with enabled := false })).2.store = st'.store) ∧
    (e.serve demands (.fresh s { settings with enabled := false })).1 =
      (e.serve demands (.fresh s settings)).1 ∧
    (e.serve demands (.fresh s { settings with enabled := false })).2.store =
      (e.serve demands (.fresh s settings)).2.store := by
  have session : e.Session transaction demands := ⟨keys, relations, within, tell⟩
  have answered (outcomes : List Outcome) (st' : State)
      (answers : e.Answers (.fresh s settings) demands outcomes st') :=
    serve_of_answers session answers (fun _ mem => mem) (disabled_ofSettings settings) same
      (Cache.watched_ofSettings settings)
  exact ⟨answered, answered _ _ (answers_serve e demands _)⟩

/-! Keys of one list -/

/-- Requests that ask for one list and write otherwise have keys that tell. -/
theorem keysTell_of_list {list : Demand} (reads : list.query.operation = .read)
    (only : ∀ d ∈ demands, d = list ∨ d.query.operation.isMutation = true) :
    e.KeysTell demands := by
  have listed {inquiry : Inquiry} {subject : Subject} (asked : e.Asked demands inquiry subject) :
      ∃ p page, e.planOf list = .ok p ∧ p.page e.defaultLimit = .ok page ∧
        subject = .rows page p.outline p.depth := by
    obtain ⟨d, mem, p, planned, asks⟩ := asked
    have own : p.query = d.query := (Access.plans_of_plan planned).asked
    rcases only d mem with rfl | mutates
    · cases asks with
      | list _ cut => exact ⟨p, _, planned, cut, rfl⟩
      | single op => rw [own, reads] at op; cases op
      | term op => rw [own, reads] at op; cases op
    · rw [← own] at mutates
      cases asks with
      | list op | single op | term op =>
        rw [op] at mutates
        cases mutates
  intro inquiry inquiry' subject subject' key asked asked' _ _
  obtain ⟨p, page, planned, cut, rfl⟩ := listed asked
  obtain ⟨p', page', planned', cut', rfl⟩ := listed asked'
  obtain rfl := Except.ok.inj (planned.symm.trans planned')
  obtain rfl := Except.ok.inj (cut.symm.trans cut')
  rfl

end Engine

/-- Relations are plain if no field has a name that is cut. -/
theorem Catalog.plainRelations_of_names {c : Catalog}
    (names : ∀ m ∈ c.models.values, ∀ f ∈ m.schema.fields, Path.segments f.name = [f.name]) :
    c.PlainRelations := by
  intro model m field found related
  obtain ⟨target, leads⟩ := Option.isSome_iff_exists.1 related
  obtain ⟨kind, known, _⟩ := Option.bind_eq_some_iff.1 leads
  obtain ⟨f, there, _⟩ := Option.map_eq_some_iff.1 known
  have named : f.name = field := by simpa using List.find?_some there
  rw [← named]
  exact names m (mem_values_of_model? found) f (List.mem_of_find?_eq_some there)

/-! Authors with their posts, under a relation of any name -/

namespace Posts
open Engine

def author (relation : String) : Model :=
  { Model.ofSchema (((Schema.ofKey "author" "id").withField ⟨"name", .scalar⟩).withField
      ⟨relation, .reverse "post" "author"⟩) with
    exposure := .only (.ofList ["name", relation])
    guards := [.allowAll] }

def post : Model :=
  { Model.ofSchema (((Schema.ofKey "post" "id").withField ⟨"title", .scalar⟩).withField
      ⟨"author", .toOne "author"⟩) with
    guards := [.allowAll] }

def engine (relation : String) : Engine :=
  ⟨⟨.ofList [("author", author relation), ("post", post)]⟩, .default, none, fun _ => .ok ()⟩

def store (relation : String) : Store :=
  ((Store.ofCatalog (engine relation).catalog).answer
    (.insert "author" [("id", .int 1), ("name", .str "ann")])).2

def guest : Request := { Request.anonymous with transaction := some "t" }

/-- The list of all authors. -/
def list : Demand := ⟨"author", .plain .read, guest⟩

def write : Demand where
  model := "post"
  query := { Query.plain .create with
    data := some (.obj [("author", .int 1), ("title", .str "a")]) }
  request := guest

/-- The authors, a post, and the authors again. -/
def demands : List Demand := [list, write, list]

/-- The keys that the answers show under the relation, author by author, with the cache as the
settings have it. -/
def shown (relation : String) (settings : CacheSettings) : List (List String) :=
  ((engine relation).serve demands (.fresh (store relation) settings)).1.map fun outcome =>
    let authors := (outcome.answer.toOption.bind (·.data.arr?)).getD []
    authors.filterMap fun author => (author.field? relation).map Value.text

def uncached : CacheSettings := { CacheSettings.default with enabled := false }

theorem within_t : ∀ d ∈ demands, d.request.transaction = some "t" := by
  intro d mem
  simp only [demands, List.mem_cons, List.not_mem_nil, or_false] at mem
  rcases mem with rfl | rfl | rfl <;> rfl

theorem keysTell (relation : String) : (engine relation).KeysTell demands := by
  have reads : list.query.operation = .read := rfl
  refine keysTell_of_list reads fun d mem => ?_
  simp only [demands, List.mem_cons, List.not_mem_nil, or_false] at mem
  rcases mem with rfl | rfl | rfl
  · exact .inl rfl
  · exact .inr rfl
  · exact .inl rfl

/-- The post is among those of its author in the second list as well. -/
theorem posts_show_through_cache :
    ((engine "posts").serve demands (.fresh (store "posts") uncached)).1 =
      ((engine "posts").serve demands (.fresh (store "posts") .default)).1 ∧
    shown "posts" .default = [["[]"], [], ["[1]"]] := by
  have transparent := caching_keeps_answers (engine "posts") (store "posts") .default "t" demands
    rfl (Catalog.plainKeys_of_kinds (by decide +kernel))
    (Catalog.plainRelations_of_names (by decide +kernel)) within_t (keysTell "posts")
  exact ⟨transparent.2.1, by decide +kernel⟩

/-- The relation `all__posts` reads like a path along `all`, so the list is not linked under the
posts that it shows, and the second list misses the new one. -/
theorem path_like_relation_is_missed :
    Catalog.build [author "all__posts", post] = .ok (engine "all__posts").catalog ∧
    (engine "all__posts").catalog.PlainKeys ∧
    (∀ d ∈ demands, d.request.transaction = some "t") ∧
    (engine "all__posts").KeysTell demands ∧
    ((engine "all__posts").serve demands (.fresh (store "all__posts") uncached)).1 ≠
      ((engine "all__posts").serve demands (.fresh (store "all__posts") .default)).1 := by
  refine ⟨rfl, Catalog.plainKeys_of_kinds (by decide +kernel), within_t, keysTell _, fun same => ?_⟩
  have differ : shown "all__posts" uncached ≠ shown "all__posts" .default := by decide +kernel
  exact differ (by rw [shown, shown, same])

end Posts

end GuardedQuery
