import GuardedQuery.Engine.Basic
import GuardedQuery.Proofs.Cache.Watched
import GuardedQuery.Proofs.Engine.Recorded
import GuardedQuery.Proofs.Script.Runs

/-! Requests one after another while the cache wears away. A reading run is laid out as the course
of its inquiries, so that values can leave the cache at any time: before a call, while it computes,
behind it, and between requests. The engine as it is takes one of these ways. -/

namespace GuardedQuery

/-! Calls -/

/-- A call on a cache that wears away before it, while it computes, and behind it. -/
inductive Cache.Calls {σ : Type} (job : Cache.Job) (compute : σ → Except Error Value × σ)
    (c : Cache) (s : σ) : Except Error Value → Cache → σ → Prop where
  | answered {begun found d : Cache} {outcome : Except Error Value} (before : c.Erodes begun)
      (started : begun.start job = (.ended outcome, found)) (behind : found.Erodes d) :
      Calls job compute c s outcome d s
  | computed {begun missed left d : Cache} {phase : Cache.Phase} (before : c.Erodes begun)
      (started : begun.start job = (phase, missed)) (computes : ∀ outcome, phase ≠ .ended outcome)
      (during : missed.Erodes left)
      (behind : (left.finish job (compute s).1 (Cache.giveUpWaiting phase)).2.Erodes d) :
      Calls job compute c s (compute s).1 d (compute s).2

theorem Cache.calls_run {σ : Type} (job : Cache.Job) (compute : σ → Except Error Value × σ)
    (c : Cache) (s : σ) :
    Calls job compute c s (c.run job compute s).1 (c.run job compute s).2.1.settle
      (c.run job compute s).2.2 := by
  rw [run]
  rcases started : c.start job with ⟨phase, missed⟩
  cases phase with
  | ended outcome => exact .answered .refl started (.settle _)
  | fresh | apart | missed | leading | waiting | alone | dropped =>
    refine .computed .refl started (fun outcome ended => ?_) .refl (.settle _)
    cases ended

namespace Engine

/-! Courses -/

/-- A reading run as the inquiries that it makes one after another. -/
inductive Course (α : Type) where
  | done (result : Except Error α)
  | script (calls : Script α)
  | ask (inquiry : Inquiry) (next : Value → Course α)

namespace Course
variable {α : Type}

def run : Course α → Run α
  | done result => liftM result
  | script calls => Run.ofScript calls
  | ask inquiry next => Run.ofInquiry inquiry >>= fun value => (next value).run

/-- Makes an inquiry, if it can be made. -/
def asking (made : Except Error Inquiry) (next : Value → Course α) : Course α :=
  match made with
  | .ok inquiry => ask inquiry next
  | .error fault => done (.error fault)

theorem run_asking (made : Except Error Inquiry) (next : Value → Course α) :
    (asking made next).run = (do
      let value ← Run.ofInquiry (← (liftM made : Run Inquiry))
      (next value).run) := by
  cases made <;> rfl

/-- Every inquiry of the course is as `P` says. -/
def All (P : Inquiry → Prop) : Course α → Prop
  | done _ | script _ => True
  | ask inquiry next => P inquiry ∧ ∀ value, (next value).All P

theorem all_of_forall {P : Inquiry → Prop} (h : ∀ inquiry, P inquiry) (course : Course α) :
    course.All P := by
  induction course with
  | done | script => trivial
  | ask inquiry next ih => exact ⟨h inquiry, ih⟩

theorem All.mono {P Q : Inquiry → Prop} {course : Course α} (h : course.All P)
    (weaker : ∀ inquiry, P inquiry → Q inquiry) : course.All Q := by
  induction course with
  | done | script => trivial
  | ask inquiry next ih => exact ⟨weaker inquiry h.1, fun value => ih value (h.2 value)⟩

theorem all_asking {P : Inquiry → Prop} {made : Except Error Inquiry} {next : Value → Course α}
    (first : ∀ inquiry, made = .ok inquiry → P inquiry) (others : ∀ value, (next value).All P) :
    (asking made next).All P := by
  cases made with
  | ok inquiry => exact ⟨first inquiry rfl, others⟩
  | error fault => trivial

/-- Every call of the course is as `P` says. -/
def Asks (P : Store.Call → Prop) : Course α → Prop
  | done _ => True
  | script calls => calls.Asks P
  | ask inquiry next => inquiry.script.Asks P ∧ ∀ value, (next value).Asks P

theorem asks_asking {P : Store.Call → Prop} {made : Except Error Inquiry}
    {next : Value → Course α}
    (first : ∀ inquiry, made = .ok inquiry → inquiry.script.Asks P)
    (others : ∀ value, (next value).Asks P) : (asking made next).Asks P := by
  cases made with
  | ok inquiry => exact ⟨first inquiry rfl, others⟩
  | error fault => trivial

/-! Without a cache -/

/-- What a course comes to when every inquiry is computed. -/
def plain : Course α → Store → Except Error α × Store
  | done result, s => (result, s)
  | script calls, s => calls.run s
  | ask inquiry next, s =>
    match inquiry.script.run s with
    | (.ok value, s) => (next value).plain s
    | (.error fault, s) => (.error fault, s)

/-- An inquiry that has no part in caching is computed. -/
theorem ofInquiry_unnamed {c : Cache} {inquiry : Inquiry} (unnamed : c.keyOf inquiry.job = none)
    (s : Store) :
    ∃ d, (Run.ofInquiry inquiry).run ⟨s, c⟩ =
      ((inquiry.script.run s).1, ⟨(inquiry.script.run s).2, d⟩) ∧ d.settings = c.settings := by
  rcases Cache.run_spec c inquiry.job inquiry.script.run s with
    ⟨key, _, named, _⟩ | ⟨_, d, ran, stores⟩
  · rw [unnamed] at named
    cases named
  · refine ⟨d.settle, ?_, ?_⟩
    · change ((c.run inquiry.job inquiry.script.run s).1,
        (⟨(c.run inquiry.job inquiry.script.run s).2.2,
          (c.run inquiry.job inquiry.script.run s).2.1.settle⟩ : State)) = _
      rw [ran]
    · cases stores with
      | nothing same => exact (Cache.Erodes.settle d).settings.trans same.settings
      | value named =>
        rw [unnamed] at named
        cases named

theorem run_unnamed {settings : CacheSettings} {course : Course α}
    (unnamed : course.All fun inquiry => settings.enabled = true → inquiry.job.key = none)
    {c : Cache} (same : c.settings = settings) (s : Store) :
    ∃ d, course.run.run ⟨s, c⟩ = ((course.plain s).1, ⟨(course.plain s).2, d⟩) ∧
      d.settings = settings := by
  induction course generalizing c s with
  | done result => cases result <;> exact ⟨c, rfl, same⟩
  | script calls => exact ⟨c, rfl, same⟩
  | ask inquiry next ih =>
    have computed : c.keyOf inquiry.job = none := by
      rw [Cache.keyOf, same]
      split
      · exact unnamed.1 ‹_›
      · rfl
    obtain ⟨d, asked, kept⟩ := ofInquiry_unnamed computed s
    rw [run, Run.run_bind, asked, plain]
    rcases inquiry.script.run s with ⟨fault | value, between⟩
    · exact ⟨d, rfl, kept.trans same⟩
    · exact ih value (unnamed.2 value) (kept.trans same) between

/-- A course whose calls two stores answer alike comes to the same on both. -/
theorem plain_congr {s s' : Store} {course : Course α}
    (same : course.Asks fun c => c.isWrite = false ∧ (s'.answer c).1 = (s.answer c).1) :
    (course.plain s').1 = (course.plain s).1 := by
  induction course with
  | done result => rfl
  | script calls => exact Script.run_congr same
  | ask inquiry next ih =>
    have outcome := Script.run_congr same.1
    have kept := Script.run_reads (s := s) (same.1.mono fun _ h => h.1)
    have kept' := Script.run_reads (s := s') (same.1.mono fun _ h => h.1)
    rw [plain, plain]
    rcases ran : inquiry.script.run s with ⟨fault | value, between⟩ <;>
      rcases ran' : inquiry.script.run s' with ⟨fault' | value', between'⟩ <;>
      rw [ran, ran'] at outcome <;> cases outcome
    · rfl
    · rw [ran] at kept
      rw [ran'] at kept'
      obtain rfl : between = s := kept
      obtain rfl : between' = s' := kept'
      exact ih value (same.2 value)

/-! While the cache wears away -/

/-- Where a course can go while the cache wears away. -/
inductive Goes : Course α → State → Except Error α → State → Prop where
  | done {result : Except Error α} {st : State} : Goes (done result) st result st
  | script {calls : Script α} {st : State} :
      Goes (script calls) st (calls.run st.store).1 ⟨(calls.run st.store).2, st.cache⟩
  | asked {inquiry : Inquiry} {next : Value → Course α} {st st' : State} {value : Value}
      {c : Cache} {s : Store} {result : Except Error α}
      (calls : Cache.Calls inquiry.job inquiry.script.run st.cache st.store (.ok value) c s)
      (further : Goes (next value) ⟨s, c⟩ result st') : Goes (ask inquiry next) st result st'
  | failed {inquiry : Inquiry} {next : Value → Course α} {st : State} {fault : Error} {c : Cache}
      {s : Store}
      (calls : Cache.Calls inquiry.job inquiry.script.run st.cache st.store (.error fault) c s) :
      Goes (ask inquiry next) st (.error fault) ⟨s, c⟩

theorem goes_run (course : Course α) (st : State) :
    course.Goes st (course.run.run st).1 (course.run.run st).2 := by
  induction course generalizing st with
  | done result => cases result <;> exact .done
  | script calls => exact .script
  | ask inquiry next ih =>
    have calls := Cache.calls_run inquiry.job inquiry.script.run st.cache st.store
    rw [run, Run.run_bind]
    rcases asked : (Run.ofInquiry inquiry).run st with ⟨fault | value, between⟩
    · obtain ⟨outcome, rfl⟩ := Prod.mk.inj asked
      exact .failed (outcome ▸ calls)
    · obtain ⟨outcome, rfl⟩ := Prod.mk.inj asked
      exact .asked (outcome ▸ calls) (ih value _)

end Course

end Engine

namespace Plan
open Engine
variable (p : Plan)

def listCourse (defaultLimit : Option Nat) : Course Response :=
  .asking (p.listInquiry defaultLimit) fun data =>
    .done (.ok ((Response.ofData data .rows).withFlag "read" (.bool true)))

def singleCourse (function : Aggregate) : Course Response :=
  match p.query.field with
  | none => .done (.error noField)
  | some field => .asking (p.aggregateInquiry function field) fun value =>
    .done (.ok ((Response.ofData value .number).withFlag function.name (.bool true)))

def aggregateCourse : List AggregateTerm → Row → Course Response
  | [], found =>
    .done (.ok ((Response.ofData (.obj found) .number).withFlag "aggregate" (.bool true)))
  | term :: rest, found => .asking (p.aggregateInquiry term.function term.field) fun value =>
    aggregateCourse rest (found.insert term.alias value)

theorem run_listCourse (defaultLimit : Option Nat) :
    (p.listCourse defaultLimit).run = p.list defaultLimit := Course.run_asking _ _

theorem run_singleCourse (function : Aggregate) :
    (p.singleCourse function).run = p.single function := by
  rw [singleCourse, single]
  cases p.query.field with
  | none => rfl
  | some field => exact Course.run_asking _ _

theorem run_aggregateCourse (terms : List AggregateTerm) (found : Row) :
    (p.aggregateCourse terms found).run = (do
      let found ← p.addAggregates terms found
      return (Response.ofData (.obj found) .number).withFlag "aggregate" (.bool true)) := by
  induction terms generalizing found with
  | nil => rfl
  | cons term rest ih =>
    rw [aggregateCourse, Course.run_asking, addAggregates, bind_assoc]
    congr 1
    funext inquiry
    rw [bind_assoc]
    congr 1
    funext value
    exact ih _

end Plan

namespace Engine

/-- The course of a reading operation. -/
def course? (e : Engine) (p : Plan) : Option (Course Response) :=
  match p.query.operation with
  | .read => some (p.listCourse e.defaultLimit)
  | .get => some (.script p.get)
  | .first => some (.script p.first)
  | .last => some (.script p.last)
  | .exist => some (.script p.exist)
  | .single function => some (p.singleCourse function)
  | .aggregate => some (p.aggregateCourse p.query.aggregates [])
  | .create | .bulkCreate | .update | .delete | .updateInstance | .deleteInstance | .getOrCreate
  | .updateOrCreate => none

variable {e : Engine} {p : Plan}

theorem course_of_reading {run : Run Response} (reading : e.handling p = .reading run) :
    ∃ course, e.course? p = some course ∧ course.run = run := by
  rw [handling] at reading
  rw [course?]
  cases op : p.query.operation <;> simp only [op] at reading ⊢ <;> cases reading
  case read => exact ⟨_, rfl, p.run_listCourse _⟩
  case get | first | last | exist => exact ⟨_, rfl, rfl⟩
  case single => exact ⟨_, rfl, p.run_singleCourse _⟩
  case aggregate => exact ⟨_, rfl, p.run_aggregateCourse _ _⟩

theorem reading_of_course {course : Course Response} (laid : e.course? p = some course) :
    e.handling p = .reading course.run := by
  rw [course?] at laid
  rw [handling]
  cases op : p.query.operation <;> simp only [op] at laid ⊢ <;> cases laid
  case read => rw [p.run_listCourse]
  case get | first | last | exist => rfl
  case single => rw [p.run_singleCourse]
  case aggregate =>
    rw [p.run_aggregateCourse]
    rfl

/-! Requests -/

/-- A query against a model, as it is sent. -/
structure Demand where
  model : String
  query : Query
  request : Request

def planOf (e : Engine) (d : Demand) : Except Error Plan :=
  (e.accessOf d.request).plan d.model d.query

/-- Serves requests one after another. -/
def serve (e : Engine) : List Demand → State → List Outcome × State
  | [], st => ([], st)
  | d :: rest, st =>
    let (outcome, st) := e.execute d.model d.query d.request st
    let (others, st) := e.serve rest st
    (outcome :: others, st)

/-- What a commit drops from the cache at once. -/
def dropped (cache : Cache) (request : Request) (model : String) (events : List Event) : Cache :=
  match request.transaction with
  | some transaction => if events.isEmpty then cache else cache.invalidate transaction model
  | none => cache

theorem dropped_erodes (cache : Cache) (request : Request) (model : String) (events : List Event) :
    (dropped cache request model events).Erodes (invalidated cache request model events) := by
  unfold dropped invalidated
  cases request.transaction with
  | none => exact .refl
  | some transaction =>
    cases events.isEmpty with
    | true => exact .refl
    | false => exact .settle _

/-- How a request can end while the cache wears away. -/
inductive Executes (e : Engine) (d : Demand) (st : State) : Outcome → State → Prop where
  | refused {fault : Error} {c : Cache} (turned : e.planOf d = .error fault)
      (erodes : st.cache.Erodes c) : Executes e d st ⟨.error fault, []⟩ ⟨st.store, c⟩
  | read {p : Plan} {course : Course Response} {answer : Except Error Response} {between : State}
      {c : Cache} (planned : e.planOf d = .ok p) (laid : e.course? p = some course)
      (goes : course.Goes st answer between) (behind : between.cache.Erodes c) :
      Executes e d st ⟨answer, []⟩ ⟨between.store, c⟩
  | wrote {p : Plan} {script : Script Written} {written : Written} {after : Store} {b c : Cache}
      (planned : e.planOf d = .ok p) (writing : e.handling p = .writing script)
      (ran : script.run st.store.begin = (.ok written, after)) (before : st.cache.Erodes b)
      (behind : (dropped b p.request p.name written.events).Erodes c) :
      Executes e d st ⟨.ok written.response, Delivery.ofEvents e.emit written.events⟩
        ⟨after.commit, c⟩
  | failed {p : Plan} {script : Script Written} {fault : Error} {after : Store} {c : Cache}
      (planned : e.planOf d = .ok p) (writing : e.handling p = .writing script)
      (ran : script.run st.store.begin = (.error fault, after)) (erodes : st.cache.Erodes c) :
      Executes e d st ⟨.error fault, []⟩ ⟨after.rollback, c⟩

/-- How a sequence of requests can be answered while the cache wears away. -/
inductive Answers (e : Engine) : State → List Demand → List Outcome → State → Prop where
  | nil {st : State} : Answers e st [] [] st
  | cons {st between st' : State} {d : Demand} {rest : List Demand} {outcome : Outcome}
      {outcomes : List Outcome} (first : e.Executes d st outcome between)
      (others : Answers e between rest outcomes st') :
      Answers e st (d :: rest) (outcome :: outcomes) st'

theorem executes_execute (e : Engine) (d : Demand) (st : State) :
    e.Executes d st (e.execute d.model d.query d.request st).1
      (e.execute d.model d.query d.request st).2 := by
  unfold execute
  split
  case h_2 fault turned => exact .refused turned .refl
  case h_1 p planned =>
    unfold runPlan
    split
    case h_1 run reading =>
      obtain ⟨course, laid, rfl⟩ := course_of_reading reading
      exact .read planned laid (course.goes_run st) .refl
    case h_2 script writing =>
      unfold transact
      split
      · rename_i written after ran
        exact .wrote planned writing ran .refl (dropped_erodes _ _ _ _)
      · rename_i fault after ran
        exact .failed planned writing ran .refl

/-- The engine answers one of the ways in which requests can be answered. -/
theorem answers_serve (e : Engine) (demands : List Demand) (st : State) :
    e.Answers st demands (e.serve demands st).1 (e.serve demands st).2 := by
  induction demands generalizing st with
  | nil => exact .nil
  | cons d rest ih => exact .cons (executes_execute e d st) (ih _)

end Engine

end GuardedQuery
