import GuardedQuery.Engine.Basic
import GuardedQuery.Proofs.Cache.Calls
import GuardedQuery.Proofs.Checks

/-! What is cached over a whole run of requests. Only inquiries touch the cache: lists and
aggregates of some plan. Whatever is cached under a key was computed by an inquiry of that key. -/

namespace GuardedQuery

namespace Engine

/-- The states that requests lead to from any store, with nothing cached at first. -/
inductive Reached (e : Engine) : State → Prop where
  | start (s : Store) (settings : CacheSettings) : Reached e ⟨s, .ofSettings settings⟩
  | step {st : State} (earlier : Reached e st) (model : String) (q : Query) (request : Request) :
      Reached e (e.execute model q request st).2

/-- The plan of some query of some request. -/
def Planned (e : Engine) (p : Plan) : Prop :=
  ∃ request model q, (e.accessOf request).plan model q = .ok p

/-- The inquiries that a plan makes, each with the selection that it asks for and the context that
its key tells it apart by. -/
inductive Inquires (e : Engine) (p : Plan) : Selection → String → Inquiry → Prop where
  | list {page : Selection} {inquiry : Inquiry} (cut : p.page e.defaultLimit = .ok page)
      (made : p.listInquiry e.defaultLimit = .ok inquiry) :
      Inquires e p page p.listContext inquiry
  | aggregate {inquiry : Inquiry} {function : Aggregate} {field : String}
      (made : p.aggregateInquiry function field = .ok inquiry) :
      Inquires e p p.selection.whole (function.name ++ ":" ++ field) inquiry

/-- An inquiry of some plan came to the value, on the store as it then was. -/
def Recorded (e : Engine) (key : String) (value : Value) : Prop :=
  ∃ p selection context inquiry s, e.Planned p ∧ e.Inquires p selection context inquiry ∧
    inquiry.job.key = some key ∧ (inquiry.script.run s).1 = .ok value

namespace Run
variable {α β : Type} {st st' : State}

theorem run_bind (run : Run α) (next : α → Run β) (st : State) :
    (run >>= next).run st = match run.run st with
      | (.ok a, between) => (next a).run between
      | (.error e, between) => (.error e, between) := by
  change ExceptT.bindCont next (run.run st).1 (run.run st).2 = _
  match run.run st with
  | (.ok a, between) => rfl
  | (.error e, between) => rfl

theorem run_bind_ok {run : Run α} {next : α → Run β} {b : β}
    (h : (run >>= next).run st = (.ok b, st')) :
    ∃ a between, run.run st = (.ok a, between) ∧ (next a).run between = (.ok b, st') := by
  rw [run_bind] at h
  split at h
  case h_1 a between ran => exact ⟨a, between, ran, h⟩
  case h_2 => cases h

theorem run_lift_ok {outcome : Except Error α} {a : α}
    (h : (liftM outcome : Run α).run st = (.ok a, st')) : outcome = .ok a ∧ st' = st := by
  cases outcome with
  | ok b =>
    cases h
    exact ⟨rfl, rfl⟩
  | error e => cases h

theorem ofInquiry_ok {inquiry : Inquiry} (uncached : inquiry.job.key = none) {value : Value}
    {s : Store} (ran : inquiry.script.run st.store = (.ok value, s)) :
    ∃ after, (ofInquiry inquiry).run st = (.ok value, after) := by
  rcases Cache.run_cases st.cache inquiry.job inquiry.script.run st.store with
    ⟨key, _, named, _⟩ | ⟨computed, _⟩
  · rw [uncached] at named
    cases named
  · exact ⟨_, Prod.ext (computed.trans (congrArg Prod.fst ran)) rfl⟩

/-! Whatever a run comes to, what is cached afterwards has been recorded. -/

def Records (e : Engine) (run : Run α) : Prop :=
  ∀ st, st.cache.Keeps e.Recorded → (run.run st).2.cache.Keeps e.Recorded

variable {e : Engine}

theorem records_pure (a : α) : (pure a : Run α).Records e := fun _ kept => kept

theorem records_ofScript (script : Script α) : (ofScript script).Records e := fun _ kept => kept

theorem records_bind {run : Run α} {next : α → Run β} (first : run.Records e)
    (others : ∀ a, (next a).Records e) : (run >>= next).Records e := by
  intro st kept
  have between := first st kept
  rw [run_bind]
  match ran : run.run st with
  | (.ok a, after) =>
    rw [ran] at between
    exact others a after between
  | (.error fault, after) =>
    rw [ran] at between
    exact between

theorem records_check {outcome : Except Error α} {next : α → Run β}
    (h : ∀ a, outcome = .ok a → (next a).Records e) :
    ((liftM outcome : Run α) >>= next).Records e := by
  cases outcome with
  | ok a => exact h a rfl
  | error fault => exact fun _ kept => kept

theorem records_ofInquiry {p : Plan} (planned : e.Planned p) {selection : Selection}
    {context : String} {inquiry : Inquiry} (inquires : e.Inquires p selection context inquiry) :
    (ofInquiry inquiry).Records e := by
  intro st kept
  refine (Cache.keeps_run kept fun key value named computed => ?_).within (Cache.settle_within _)
  exact ⟨p, selection, context, inquiry, st.store, planned, inquires, named, computed⟩

end Run

end Engine

namespace Plan
open Engine
variable {e : Engine} {p : Plan}

theorem records_list (planned : e.Planned p) : (p.list e.defaultLimit).Records e := by
  refine Run.records_check fun inquiry made => ?_
  obtain ⟨_, cut, _⟩ := Checks.bind_ok_iff.1 made
  exact Run.records_bind (Run.records_ofInquiry planned (.list cut made)) fun _ =>
    Run.records_pure _

theorem records_single (planned : e.Planned p) (function : Aggregate) :
    (p.single function).Records e := by
  unfold single
  split
  · exact fun _ kept => kept
  · refine Run.records_check fun inquiry made => ?_
    exact Run.records_bind (Run.records_ofInquiry planned (.aggregate made)) fun _ =>
      Run.records_pure _

theorem records_addAggregates (planned : e.Planned p) (terms : List AggregateTerm) (found : Row) :
    (p.addAggregates terms found).Records e := by
  induction terms generalizing found with
  | nil => exact Run.records_pure found
  | cons term rest ih =>
    refine Run.records_check fun inquiry made => ?_
    exact Run.records_bind (Run.records_ofInquiry planned (.aggregate made)) fun _ => ih _

theorem records_reading (planned : e.Planned p) {run : Run Response}
    (h : e.handling p = .reading run) : run.Records e := by
  rw [handling] at h
  split at h <;> cases h
  case h_1 => exact records_list planned
  case h_6 => exact records_single planned _
  case h_7 =>
    exact Run.records_bind (records_addAggregates planned _ _) fun _ => Run.records_pure _
  all_goals exact Run.records_ofScript _

end Plan

namespace Engine
variable {e : Engine} {st : State}

theorem records_transact (p : Plan) (script : Script Written) (kept : st.cache.Keeps e.Recorded) :
    (e.transact p script st).2.cache.Keeps e.Recorded := by
  unfold transact
  split
  · change (invalidated _ _ _ _).Keeps _
    unfold invalidated
    split
    · split
      · exact kept
      · refine Cache.Keeps.within kept ?_
        exact (Cache.settle_within _).trans (Cache.invalidate_within _ _ _)
    · exact kept
  · exact kept

theorem records_execute {model : String} {q : Query} {request : Request}
    (kept : st.cache.Keeps e.Recorded) :
    (e.execute model q request st).2.cache.Keeps e.Recorded := by
  unfold execute
  split
  case h_2 => exact kept
  case h_1 p planned =>
    unfold runPlan
    split
    · rename_i run reading
      exact Plan.records_reading ⟨request, model, q, planned⟩ reading st kept
    · exact records_transact p _ kept

/-- Over every run of requests, what is cached under a key was computed by an inquiry of it. -/
theorem recorded_of_reached (reached : e.Reached st) : st.cache.Keeps e.Recorded := by
  induction reached with
  | start s settings =>
    intro key value found
    cases found
  | step _ model q request ih => exact records_execute ih

end Engine

end GuardedQuery
