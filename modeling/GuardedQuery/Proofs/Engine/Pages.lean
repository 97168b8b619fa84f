import GuardedQuery.Proofs.Cache.Soundness
import GuardedQuery.Proofs.Engine.Ends

/-! Pages. A page shows its part of the list, since it is a window of the rows that the list shows.
Its key is that of its window, so while the store stands still the cache answers each page by what
it comes to itself, and the pages join to the list. -/

namespace GuardedQuery

theorem Carries.unique {answer : Except Error Response} {xs ys : List Value}
    (h : Carries answer (.arr xs)) (h' : Carries answer (.arr ys)) : xs = ys := by
  obtain ⟨r, rfl, data⟩ := h
  obtain ⟨_, ⟨⟩, data'⟩ := h'
  exact Value.arr.inj (data.symm.trans data')

/-- The query with another window. -/
def Query.within (q : Query) (offset limit : Option Nat) : Query :=
  { q with options := { q.options with offset, limit } }

namespace Plan
variable {p : Plan} {s : Store} {rows : List Row} {items : List Value}

def within (p : Plan) (offset limit : Option Nat) : Plan :=
  { p with query := p.query.within offset limit }

/-- The rows of the plan within a window. -/
def windowed (p : Plan) (offset limit : Option Nat) : Selection :=
  { p.selection with offset := offset.getD 0, limit }

theorem page_within_ok_iff (free : p.selection.Unbounded) {offset limit : Option Nat}
    {page : Selection} : (p.within offset limit).page none = .ok page ↔
      offset.getD 0 < Selection.offsetLimit ∧ p.windowed offset limit = page := by
  have cut : (p.within offset limit).page none = p.selection.window (offset.getD 0) limit := by
    rw [Plan.page, within, Query.within, Option.or_none]
  rw [cut]
  by_cases word : offset.getD 0 < Selection.offsetLimit
  · rw [free.cut word, Except.ok.injEq]
    exact (and_iff_right word).symm
  · rw [Selection.window, free.offset, Nat.zero_add, if_neg word]
    exact iff_of_false (fun cut => by cases cut) fun h => word h.1

/-- The models behind the rows of a plan are those behind each of its windows. -/
theorem listInquiry_within (free : p.selection.Unbounded) {models : NameSet}
    (depends : p.access.catalog.dependencies p.selection p.outline [] = .ok models)
    (offset limit : Option Nat) (word : offset.getD 0 < Selection.offsetLimit) :
    ∃ inquiry, (p.within offset limit).listInquiry none = .ok inquiry ∧
      inquiry.script = p.showSelected (p.windowed offset limit) := by
  have cut : (p.within offset limit).page none = .ok (p.windowed offset limit) :=
    (page_within_ok_iff free).2 ⟨word, rfl⟩
  exact ⟨_, Checks.bind_ok_iff.2 ⟨_, cut, Checks.bind_ok_iff.2 ⟨models, depends, rfl⟩⟩, rfl⟩

/-- A window shows its part of the list. -/
theorem Lists.run_window (lists : p.Lists s rows items) (offset limit : Option Nat) :
    (p.showSelected (p.windowed offset limit)).run s =
      (.ok (.arr ((p.windowed offset limit).page items)), s) := by
  have shown : List.Forall₂ (fun row item => (p.present row).run s = (.ok item, s))
      ((p.windowed offset limit).page rows) ((p.windowed offset limit).page items) := by
    have behind := List.forall₂_drop (offset.getD 0) lists.shown
    cases limit with
    | none => exact behind
    | some limit => exact List.forall₂_take limit behind
  have selected := Store.select_window lists.free lists.selected (offset.getD 0) limit
  exact (Script.run_select selected).trans (Script.run_next (Script.run_mapM shown))

end Plan

/-- The window of a query has no part in its plan. -/
theorem Access.plan_within {a : Access} {model : String} {q : Query} {p : Plan}
    (planned : a.plan model q = .ok p) (offset limit : Option Nat) :
    a.plan model (q.within offset limit) = .ok (p.within offset limit) := by
  have plans := plans_of_plan planned
  exact Plans.plan ⟨plans.accessed, plans.named, congrArg (·.within offset limit) plans.asked,
    plans.found, plans.allowed, plans.vetted, plans.selected, plans.deep, plans.outlined⟩

namespace Engine
variable {e : Engine} {s : Store} {d : Demand} {demands : List Demand} {st : State} {p : Plan}
  {inquiry : Inquiry} {subject : Subject}

/-! While the store stands still -/

/-- The value is what the inquiries under the key come to. -/
def Comes (e : Engine) (demands : List Demand) (s : Store) (key : String) (value : Value) : Prop :=
  ∀ inquiry subject, e.Asked demands inquiry subject → inquiry.job.key = some key →
    (inquiry.script.run s).1 = .ok value

/-- The store is the given one, and under the keys of what may be asked the cache holds nothing but
what that comes to. -/
structure Steady (e : Engine) (demands : List Demand) (s : Store) (st : State) : Prop where
  store : st.store = s
  keeps : st.cache.Keeps (e.Comes demands s)

theorem steady_fresh (e : Engine) (demands : List Demand) (s : Store) (settings : CacheSettings) :
    e.Steady demands s (.fresh s settings) := ⟨rfl, fun _ _ held => by cases held⟩

namespace Steady

theorem replies (steady : e.Steady demands s st) (mem : d ∈ demands) :
    e.Replies s d (e.execute d.model d.query d.request st).1.answer := by
  obtain ⟨store, cache⟩ := st
  obtain ⟨rfl, keeps⟩ := steady
  refine ⟨cache, fun p course planned laid => ?_, rfl⟩
  exact (all_asked mem planned laid).mono fun inquiry ⟨subject, asked⟩ key value named held =>
    keeps key value held inquiry subject asked named

/-- An inquiry leaves the store as it is, and what it puts into the cache is what it comes to. -/
theorem ask (steady : e.Steady demands s st) (tell : e.KeysTell demands)
    (asked : e.Asked demands inquiry subject) :
    e.Steady demands s ((Run.ofInquiry inquiry).run st).2 := by
  obtain ⟨store, cache⟩ := st
  obtain ⟨rfl, keeps⟩ := steady
  have kept : (inquiry.script.run store).2 = store := Script.run_reads asked.about.reads
  have stays : (cache.run inquiry.job inquiry.script.run store).2.2 = store := by
    rcases Cache.run_cases cache inquiry.job inquiry.script.run store with
      ⟨_, _, _, _, _, same, _⟩ | ⟨_, same, _⟩
    · exact same
    · exact same.trans kept
  have cached : (cache.run inquiry.job inquiry.script.run store).2.1.Keeps
      (e.Comes demands store) := by
    refine Cache.keeps_run keeps fun key value named computed other subject' asked' named' => ?_
    -- Whoever asks under this key asks about the same.
    obtain rfl := tell _ _ _ _ key asked asked' named named'
    rwa [asked'.about.script, ← asked.about.script]
  exact ⟨stays, cached.within (Cache.settle_within _)⟩

theorem run {α : Type} {course : Course α} (steady : e.Steady demands s st)
    (tell : e.KeysTell demands)
    (all : course.All fun inquiry => ∃ subject, e.Asked demands inquiry subject)
    (reads : course.Asks fun call => call.isWrite = false) :
    e.Steady demands s (course.run.run st).2 := by
  induction course generalizing st with
  | done result => cases result <;> exact steady
  | script calls =>
    exact ⟨(Script.run_reads reads).trans steady.store, steady.keeps⟩
  | ask inquiry next ih =>
    obtain ⟨⟨subject, asked⟩, others⟩ := all
    have between := steady.ask tell asked
    rw [Course.run, Run.run_bind]
    rcases ran : (Run.ofInquiry inquiry).run st with ⟨fault | value, after⟩ <;> rw [ran] at between
    · exact between
    · exact ih value between (others value) (reads.2 value)

/-- A request that reads leaves the store and the cache as they should be. -/
theorem execute (steady : e.Steady demands s st) (tell : e.KeysTell demands) (mem : d ∈ demands)
    (reads : d.query.operation.isMutation = false) :
    e.Steady demands s (e.execute d.model d.query d.request st).2 := by
  cases planned : e.planOf d with
  | error fault =>
    have refused : (e.accessOf d.request).plan d.model d.query = .error fault := planned
    rw [Engine.execute, refused]
    exact steady
  | ok p =>
    cases handled : e.handling p with
    | writing script =>
      have mutates := isMutation_of_handling.2 ⟨script, handled⟩
      rw [(Access.plans_of_plan planned).asked, reads] at mutates
      cases mutates
    | reading run =>
      obtain ⟨course, laid, rfl⟩ := course_of_reading handled
      rw [execute_course planned laid]
      have looks : p.Reads fun call => call.isWrite = false :=
        ⟨fun _ _ _ => rfl, rfl, fun _ _ _ => rfl, fun _ _ _ _ _ => rfl⟩
      exact steady.run tell (all_asked mem planned laid) (looks.asks_course laid)

theorem serve {earlier : List Demand} (steady : e.Steady demands s st) (tell : e.KeysTell demands)
    (among : ∀ d ∈ earlier, d ∈ demands ∧ d.query.operation.isMutation = false) :
    e.Steady demands s (e.serve earlier st).2 := by
  induction earlier generalizing st with
  | nil => exact steady
  | cons d rest ih =>
    obtain ⟨⟨mem, reads⟩, others⟩ := List.forall_mem_cons.1 among
    exact ih (steady.execute tell mem reads) others

end Steady

/-! Keys of windows -/

/-- The demand for another window of the same list. -/
def Demand.within (d : Demand) (offset limit : Option Nat) : Demand :=
  { d with query := d.query.within offset limit }

/-- The bytes whose digests are the keys of lists. -/
def listBytes (e : Engine) (demands : List Demand) : List (List UInt8) :=
  demands.filterMap fun d => Except.toOption do
    let p ← e.planOf d
    let page ← p.page e.defaultLimit
    return digested p page p.listContext

theorem mem_listBytes (mem : d ∈ demands) (planned : e.planOf d = .ok p) {page : Selection}
    (cut : p.page e.defaultLimit = .ok page) :
    digested p page p.listContext ∈ e.listBytes demands := by
  refine List.mem_filterMap.2 ⟨d, mem, ?_⟩
  rw [planned]
  simp only [bind, Except.bind, cut]
  rfl

/-- The bytes tell windows of one plan apart, whatever else they contain. -/
theorem windowed_eq_of_digested {offset limit offset' limit' : Option Nat}
    (same : digested p (p.windowed offset limit) p.listContext =
      digested p (p.windowed offset' limit') p.listContext) :
    p.windowed offset limit = p.windowed offset' limit' := by
  obtain ⟨offsets, rfl⟩ := Selection.window_inj (Cache.Key.text_eq_of_frames same)
  rw [Plan.windowed, Plan.windowed, offsets]

/-- Of windows of one list, the keys tell which one is asked for. -/
theorem keysTell_of_windows (unlimited : e.defaultLimit = none)
    (reads : d.query.operation = .read)
    (only : ∀ d' ∈ demands, ∃ offset limit, d' = d.within offset limit)
    (distinct : Cache.Key.CollisionFree (e.listBytes demands)) : e.KeysTell demands := by
  have listed {inquiry : Inquiry} {subject : Subject} {key : String}
      (asked : e.Asked demands inquiry subject) (named : inquiry.job.key = some key) :
      ∃ p offset limit, e.planOf d = .ok p ∧
        subject = .rows (p.windowed offset limit) p.outline p.depth ∧
        digested p (p.windowed offset limit) p.listContext ∈ e.listBytes demands ∧
        ∃ transaction, p.request.transaction = some transaction ∧
          Cache.Key.make (p.windowed offset limit).render transaction p.listContext = key := by
    obtain ⟨d', mem, p', planned', asks⟩ := asked
    obtain ⟨offset, limit, rfl⟩ := only d' mem
    have planned : e.planOf d = .ok (p'.within d.query.options.offset d.query.options.limit) :=
      Access.plan_within planned' _ _
    generalize p'.within d.query.options.offset d.query.options.limit = p at planned
    obtain rfl : p' = p.within offset limit :=
      Except.ok.inj (planned'.symm.trans (Access.plan_within planned offset limit))
    have own : (p.within offset limit).query.operation = .read :=
      (congrArg Query.operation (Access.plans_of_plan planned').asked).trans reads
    cases asks with
    | single op | term op =>
      rw [own] at op
      cases op
    | @list page _ _ cut made =>
      have bytes := mem_listBytes mem planned' cut
      obtain ⟨page', cut', made⟩ := Checks.bind_ok_iff.1 made
      obtain rfl := Except.ok.inj (cut.symm.trans cut')
      rw [unlimited] at cut
      have free := Access.unbounded_selection (Access.plans_of_plan planned).selected
      obtain ⟨_, rfl⟩ := (Plan.page_within_ok_iff free).1 cut
      exact ⟨p, offset, limit, planned, rfl, bytes, Plan.inquiry_key made named⟩
  intro inquiry inquiry' subject subject' key asked asked' named named'
  obtain ⟨p, offset, limit, planned, rfl, bytes, transaction, within, is⟩ := listed asked named
  obtain ⟨p', offset', limit', planned', rfl, bytes', transaction', within', is'⟩ :=
    listed asked' named'
  obtain rfl := Except.ok.inj (planned.symm.trans planned')
  obtain rfl := Option.some.inj (within.symm.trans within')
  have digests := Cache.Key.digest_eq_of_make (is.trans is'.symm)
  have same : digested p (p.windowed offset limit) p.listContext =
      digested p (p.windowed offset' limit') p.listContext := by
    refine distinct.distinguishes bytes bytes' ?_
    rw [digested, digested, within]
    exact digests
  rw [windowed_eq_of_digested same]

theorem Asks.within (asks : e.Asks p inquiry subject) {key : String}
    (named : inquiry.job.key = some key) :
    ∃ transaction, p.request.transaction = some transaction := by
  have keyed {sel : Selection} {context : String} {o : Outline} {paths : List String}
      {script : Script Value} (made : p.inquiry sel context o paths script = .ok inquiry) :
      ∃ transaction, p.request.transaction = some transaction :=
    (Plan.inquiry_key made named).imp fun _ => And.left
  cases asks with
  | list _ _ made =>
    obtain ⟨page, _, made⟩ := Checks.bind_ok_iff.1 made
    exact keyed made
  | single _ _ made | term _ _ made => exact keyed made

/-- Without a transaction nothing has a key. -/
theorem unnamed_of_windows (only : ∀ d' ∈ demands, ∃ offset limit, d' = d.within offset limit)
    (apart : d.request.transaction = none) (asked : e.Asked demands inquiry subject) :
    inquiry.job.key = none := by
  obtain ⟨d', mem, p, planned, asks⟩ := asked
  obtain ⟨offset, limit, rfl⟩ := only d' mem
  have own : p.request = d.request :=
    congrArg Access.request (Access.plans_of_plan planned).accessed
  refine Option.eq_none_iff_forall_ne_some.2 fun key named => ?_
  obtain ⟨_, within⟩ := asks.within named
  rw [own, apart] at within
  cases within

/-! Pages -/

/-- The demand for the rows behind so many others. -/
def Demand.page (d : Demand) (offset size : Nat) : Demand := d.within (some offset) (some size)

/-- The number of pages of a size that show all items. -/
def pageCount (items size : Nat) : Nat := (items + size - 1) / size

/-- The pages that are asked for where so many items are listed, with the empty one behind them. -/
def Demand.pages (d : Demand) (size items : Nat) : List Demand :=
  (List.range (pageCount items size + 1)).map fun k => d.page (k * size) size

/-- Asks for one page after another, beginning with the numbered one, until one is empty. Together
they show so much. -/
inductive Browses (e : Engine) (d : Demand) (size : Nat) : Nat → State → List Value → Prop where
  | ended {k : Nat} {st : State}
      (empty : Carries (e.execute d.model (d.page (k * size) size).query d.request st).1.answer
        (.arr [])) : Browses e d size k st []
  | further {k : Nat} {st : State} {shown rest : List Value} (some : shown ≠ [])
      (page : Carries (e.execute d.model (d.page (k * size) size).query d.request st).1.answer
        (.arr shown))
      (others : Browses e d size (k + 1)
        (e.execute d.model (d.page (k * size) size).query d.request st).2 rest) :
      Browses e d size k st (shown ++ rest)

/-- States in which a list and its pages can be asked for: any state, if that is outside of a
transaction, and otherwise those that a new cache comes to by answering lists that differ in their
windows, as long as the digest tells all of them apart. -/
inductive Browsable (e : Engine) (s : Store) (d : Demand) (pages : List Demand) : State → Prop where
  | apart (cache : Cache) (none : d.request.transaction = none) : Browsable e s d pages ⟨s, cache⟩
  | within (settings : CacheSettings) {earlier : List Demand}
      (lists : ∀ d' ∈ earlier, ∃ offset limit, d' = d.within offset limit)
      (distinct : Cache.Key.CollisionFree (e.listBytes (earlier ++ d :: pages))) :
      Browsable e s d pages (e.serve earlier (.fresh s settings)).2

theorem le_mul_iff_pageCount_le {items size k : Nat} (positive : 0 < size) :
    items ≤ k * size ↔ pageCount items size ≤ k := by
  rw [pageCount, Nat.div_le_iff_le_mul_add_pred positive, Nat.mul_comm k]
  omega

theorem take_eq_nil_iff {items : List Value} {k size : Nat} (positive : 0 < size) :
    (items.drop (k * size)).take size = [] ↔ pageCount items.length size ≤ k := by
  rw [← le_mul_iff_pageCount_le positive, List.take_eq_nil_iff, List.drop_eq_nil_iff]
  exact or_iff_right (Nat.ne_of_gt positive)

/-- Each page shows its part of the items, and leads to a state in which the next one can be asked
for. -/
structure Paged (e : Engine) (d : Demand) (size : Nat) (items : List Value) (P : State → Prop) :
    Prop where
  shows : ∀ k ≤ pageCount items.length size, ∀ st, P st →
    Carries (e.execute d.model (d.page (k * size) size).query d.request st).1.answer
      (.arr ((items.drop (k * size)).take size))
  keeps : ∀ k ≤ pageCount items.length size, ∀ st, P st →
    P (e.execute d.model (d.page (k * size) size).query d.request st).2

namespace Paged
variable {size : Nat} {items found : List Value} {P : State → Prop} {k : Nat}

theorem drop_eq (items : List Value) (k size : Nat) :
    items.drop (k * size) =
      (items.drop (k * size)).take size ++ items.drop ((k + 1) * size) := by
  rw [Nat.succ_mul, ← List.drop_drop, List.take_append_drop]

/-- What is shown from a page on is what the list goes on with there. -/
theorem eq_drop (paged : e.Paged d size items P) (positive : 0 < size)
    (browses : e.Browses d size k st found) (here : k ≤ pageCount items.length size)
    (ready : P st) : found = items.drop (k * size) := by
  induction browses with
  | @ended k st empty =>
    have none := empty.unique (paged.shows k here st ready)
    have last := (take_eq_nil_iff positive).1 none.symm
    exact (List.drop_eq_nil_of_le ((le_mul_iff_pageCount_le positive).2 last)).symm
  | @further k st shown rest some page _ ih =>
    obtain rfl := page.unique (paged.shows k here st ready)
    have more : ¬ pageCount items.length size ≤ k := fun last =>
      some ((take_eq_nil_iff positive).2 last)
    rw [ih (by omega) (paged.keeps k here st ready)]
    exact (drop_eq items k size).symm

theorem browses (paged : e.Paged d size items P) (positive : 0 < size) {left : Nat}
    (total : k + left = pageCount items.length size) (ready : P st) :
    e.Browses d size k st (items.drop (k * size)) := by
  induction left generalizing k st with
  | zero =>
    have shows := paged.shows k (by omega) st ready
    have last : pageCount items.length size ≤ k := by omega
    rw [(take_eq_nil_iff positive).2 last] at shows
    rw [List.drop_eq_nil_of_le ((le_mul_iff_pageCount_le positive).2 last)]
    exact .ended shows
  | succ left ih =>
    have some : (items.drop (k * size)).take size ≠ [] := fun none =>
      absurd ((take_eq_nil_iff positive).1 none) (by omega)
    rw [drop_eq]
    exact .further some (paged.shows k (by omega) st ready)
      (ih (by omega) (paged.keeps k (by omega) st ready))

end Paged

theorem Browsable.steady {pages : List Demand} (browsable : e.Browsable s d pages st)
    (unlimited : e.defaultLimit = none) (reads : d.query.operation = .read)
    (windows : ∀ d' ∈ d :: pages, ∃ offset limit, d' = d.within offset limit) :
    ∃ demands, (∀ d' ∈ d :: pages, d' ∈ demands) ∧ e.KeysTell demands ∧
      e.Steady demands s st := by
  cases browsable with
  | apart cache none =>
    have unnamed {inquiry : Inquiry} {subject : Subject} {key : String}
        (asked : e.Asked (d :: pages) inquiry subject) (named : inquiry.job.key = some key) :
        False := by
      rw [unnamed_of_windows windows none asked] at named
      cases named
    exact ⟨_, fun _ => id, fun _ _ _ _ _ asked _ named _ => (unnamed asked named).elim, rfl,
      fun _ _ _ _ _ asked named => (unnamed asked named).elim⟩
  | @within settings earlier lists distinct =>
    have tell : e.KeysTell (earlier ++ d :: pages) :=
      keysTell_of_windows unlimited reads (List.forall_mem_append.2 ⟨lists, windows⟩) distinct
    refine ⟨_, fun _ => List.mem_append_right _, tell,
      (steady_fresh e _ s settings).serve tell fun d' mem => ⟨List.mem_append_left _ mem, ?_⟩⟩
    obtain ⟨offset, limit, rfl⟩ := lists d' mem
    exact congrArg Operation.isMutation reads

/-- A window that is asked for is answered by its part of the list. -/
theorem Steady.shows (steady : e.Steady demands s st) (planned : e.planOf d = .ok p)
    (unlimited : e.defaultLimit = none) (reads : d.query.operation = .read) {rows : List Row}
    {items : List Value} (lists : p.Lists s rows items) {models : NameSet}
    (depends : p.access.catalog.dependencies p.selection p.outline [] = .ok models)
    {offset limit : Option Nat} (mem : d.within offset limit ∈ demands)
    (word : offset.getD 0 < Selection.offsetLimit) :
    Carries (e.execute d.model (d.within offset limit).query d.request st).1.answer
      (.arr ((p.windowed offset limit).page items)) := by
  obtain ⟨inquiry, made, script⟩ := Plan.listInquiry_within lists.free depends offset limit word
  have own : (p.within offset limit).query.operation = .read :=
    (congrArg Query.operation (Access.plans_of_plan planned).asked).trans reads
  have answered := (steady.replies mem).listed (Access.plan_within planned offset limit) own
    (unlimited ▸ made)
  rw [script, lists.run_window] at answered
  exact ⟨_, answered, rfl⟩

/-- Pagination loses and repeats nothing. Where a list is answered without limits, the pages of any
size join to it, as long as the offset of the last one is a word. -/
theorem pages_join_to_list (e : Engine) (s : Store) (d : Demand) (unlimited : e.defaultLimit = none)
    (reads : d.query.operation = .read) (offset : d.query.options.offset = none)
    (limit : d.query.options.limit = none) {listed : Response}
    (replies : e.Replies s d (.ok listed)) {size : Nat} (positive : 0 < size) :
    ∃ items, listed.data = .arr items ∧
      (pageCount items.length size * size < Selection.offsetLimit →
        ∀ st, e.Browsable s d (d.pages size items.length) st →
          (e.execute d.model d.query d.request st).1.answer = .ok listed ∧
          ∀ found, e.Browses d size 0 st found ↔ found = items) := by
  obtain ⟨p, rows, items, planned, data, lists, models, depends⟩ :=
    replies.lists reads unlimited offset limit
  refine ⟨items, data, fun word st browsable => ?_⟩
  have windows : ∀ d' ∈ d :: d.pages size items.length,
      ∃ offset limit, d' = d.within offset limit := by
    refine List.forall_mem_cons.2 ⟨⟨_, _, rfl⟩, fun d' mem => ?_⟩
    obtain ⟨k, _, rfl⟩ := List.mem_map.1 mem
    exact ⟨_, _, rfl⟩
  obtain ⟨demands, among, tell, steady⟩ := browsable.steady unlimited reads windows
  have page {k : Nat} (here : k ≤ pageCount items.length size) : d.page (k * size) size ∈ demands :=
    among _ (List.mem_cons_of_mem _
      (List.mem_map.2 ⟨k, List.mem_range.2 (Nat.lt_succ_of_le here), rfl⟩))
  have paged : e.Paged d size items (e.Steady demands s) := {
    shows := fun k here st steady =>
      steady.shows planned unlimited reads lists depends (page here)
        (Nat.lt_of_le_of_lt (Nat.mul_le_mul_right size here) word)
    keeps := fun k here st steady =>
      steady.execute tell (page here) (congrArg Operation.isMutation reads) }
  constructor
  · exact (steady.replies (among d List.mem_cons_self)).unique replies reads
  · intro found
    constructor
    · intro browses
      have joined := paged.eq_drop positive browses (Nat.zero_le _) steady
      rwa [Nat.zero_mul] at joined
    · rintro rfl
      have browses := paged.browses positive (Nat.zero_add _) steady
      rwa [Nat.zero_mul] at browses

end Engine

/-! The tied scores, two at a time -/

namespace Scores
open Engine

def tied : Demand := ranking ["points"]

/-- The state after the list and the page behind its first row. -/
def browsed : State := (engine.serve [tied, tied.page 1 1] (.fresh scores .default)).2

/-- Two scores are equal by their points, and stand on different pages as they do in the list. -/
theorem tied_scores_join :
    ∃ listed items, engine.Replies scores tied (.ok listed) ∧ listed.data = .arr items ∧
      items.map keyOf = [some "2", some "1", some "3"] ∧
      ∀ found, engine.Browses tied 2 0 browsed found ↔ found = items := by
  obtain ⟨listed, shown⟩ : ∃ listed, answer tied = .ok listed :=
    Checks.exists_ok_of_isOk (by decide +kernel)
  have replies : engine.Replies scores tied (.ok listed) := shown ▸ replies tied
  have keys : ((answer tied).toOption.bind (·.data.arr?)).map (·.map keyOf) =
      some [some "2", some "1", some "3"] := by decide +kernel
  obtain ⟨items, data, joins⟩ :=
    pages_join_to_list engine scores tied rfl rfl rfl rfl replies Nat.two_pos
  rw [shown, Except.toOption, Option.bind_some, data] at keys
  have shows := Option.some.inj keys
  have three : items.length = 3 := by simpa using congrArg List.length shows
  rw [three] at joins
  have browsable : engine.Browsable scores tied (tied.pages 2 3) browsed :=
    .within .default (List.forall_mem_cons.2 ⟨⟨none, none, rfl⟩,
      List.forall_mem_singleton.2 ⟨some 1, some 1, rfl⟩⟩) (by decide +kernel)
  exact ⟨listed, items, replies, data, shows, (joins (by decide) browsed browsable).2⟩

end Scores

end GuardedQuery
