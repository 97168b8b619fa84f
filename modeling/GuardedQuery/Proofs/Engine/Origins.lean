import GuardedQuery.Proofs.Engine.Displays
import GuardedQuery.Proofs.Engine.Reads
import GuardedQuery.Proofs.Engine.Recorded
import GuardedQuery.Proofs.Plan

/-! Where the data of answers comes from. An answer that is not taken from the cache shows rows as
they are, and what is taken from the cache was computed by an inquiry with the key of the present
one. -/

namespace GuardedQuery

namespace Engine

/-- An aggregate of some selection came to the value. -/
def Aggregated (value : Value) : Prop :=
  ∃ (s : Store) (sel : Selection) (function : Aggregate) (field : String),
    s.aggregate sel function field = .ok value

/-- The value shows rows of a model of the catalog, or it is what an aggregate came to. -/
def Sourced (c : Catalog) (value : Value) : Prop :=
  (∃ d : Display, d.access.catalog = c ∧ d.Shows value) ∨ Aggregated value

/-- Everything in the cache of the state comes from rows or aggregates. -/
def Sound (c : Catalog) (st : State) : Prop := st.cache.Keeps fun _ => Sourced c

theorem Planned.catalog {e : Engine} {p : Plan} (h : e.Planned p) :
    p.access.catalog = e.catalog := by
  obtain ⟨request, model, q, planned⟩ := h
  rw [(Access.plans_of_plan planned).accessed]
  rfl

end Engine

namespace Plan
open Engine
variable {p : Plan} {st st' : State} {r : Response} {Q : Value → Store → Prop}

theorem listInquiry_ends (all : ∀ rows, (p.presentAll rows).Ends Q)
    {defaultLimit : Option Nat} {inquiry : Inquiry}
    (h : p.listInquiry defaultLimit = .ok inquiry) : inquiry.script.Ends Q := by
  obtain ⟨page, _, made⟩ := Checks.bind_ok_iff.1 h
  rw [p.inquiry_script made]
  exact ends_showSelected all page

theorem aggregated_of_run {function : Aggregate} {field : String} {inquiry : Inquiry}
    (h : p.aggregateInquiry function field = .ok inquiry) {s : Store} {value : Value}
    (ran : (inquiry.script.run s).1 = .ok value) : Aggregated value := by
  rw [p.inquiry_script h] at ran
  refine ⟨s, p.selection.whole, function, field, ?_⟩
  rw [← ran, Script.aggregate, Script.request, Script.run, Store.answer]
  cases s.aggregate p.selection.whole function field <;> rfl

/-! Answers to reading requests -/

/-- An inquiry has a key within a transaction only. -/
theorem inquiry_key {s : Selection} {context : String} {o : Outline} {paths : List String}
    {script : Script Value} {inquiry : Inquiry}
    (h : p.inquiry s context o paths script = .ok inquiry) {key : String}
    (named : inquiry.job.key = some key) :
    ∃ transaction, p.request.transaction = some transaction ∧
      Cache.Key.make s.render transaction context = key := by
  obtain ⟨models, _, made⟩ := Checks.bind_ok_iff.1 h
  rw [← Checks.pure_ok_iff.1 made] at named
  have keyed : Cache.Key.make? s.render p.request.transaction context = some key := by
    dsimp only at named
    split at named
    · exact named
    · cases named
  rw [Cache.Key.make?, Option.map_eq_some_iff] at keyed
  exact keyed

/-- The answer is what the cache holds under the key of the list. -/
structure Hits (p : Plan) (defaultLimit : Option Nat) (st : State) (r : Response) : Prop where
  found : ∃ inquiry key, p.listInquiry defaultLimit = .ok inquiry ∧ inquiry.job.key = some key ∧
    st.cache.peek key = some r.data
  flagged : r.Flagged p.keyName

theorem Hits.transaction {defaultLimit : Option Nat} (h : p.Hits defaultLimit st r) :
    p.request.transaction ≠ none := by
  obtain ⟨inquiry, key, made, named, _⟩ := h.found
  obtain ⟨page, _, planned⟩ := Checks.bind_ok_iff.1 made
  obtain ⟨transaction, within, _⟩ := inquiry_key planned named
  exact within ▸ Option.some_ne_none transaction

/-- A list shows rows of the store, unless it is answered from the cache. -/
theorem list_shows (all : ∀ rows, (p.presentAll rows).Ends Q) {defaultLimit : Option Nat}
    (ran : (p.list defaultLimit).run st = (.ok r, st')) :
    Q r.data st'.store ∧ r.Flagged p.keyName ∨ p.Hits defaultLimit st r := by
  obtain ⟨inquiry, between, begun, further⟩ := Run.run_bind_ok ran
  obtain ⟨made, rfl⟩ := Run.run_lift_ok begun
  obtain ⟨data, after, asked, final⟩ := Run.run_bind_ok further
  cases final
  have outcome : (between.cache.run inquiry.job inquiry.script.run between.store).1 = .ok data :=
    congrArg Prod.fst asked
  have left : (between.cache.run inquiry.job inquiry.script.run between.store).2.2 = st'.store :=
    congrArg (fun result => result.2.store) asked
  rcases Cache.run_cases between.cache inquiry.job inquiry.script.run between.store with
    ⟨key, value, named, found, is, _⟩ | ⟨computed, same, _⟩
  · right
    obtain rfl : value = data := Except.ok.inj (is.symm.trans outcome)
    exact ⟨⟨inquiry, key, made, named, found⟩, Response.flagged_ofData.withBool⟩
  · left
    refine ⟨?_, Response.flagged_ofData.withBool⟩
    exact listInquiry_ends all made between.store data st'.store
      (Prod.ext (computed.symm.trans outcome) (same.symm.trans left))

theorem list_answers (shows : p.Shows Q) {defaultLimit : Option Nat}
    (ran : (p.list defaultLimit).run st = (.ok r, st')) :
    p.Answered Q r st'.store ∨ p.Hits defaultLimit st r :=
  (list_shows shows.presentAll ran).imp_left fun ⟨shown, flagged⟩ => ⟨.inr (.inr shown), flagged⟩

theorem single_answers {function : Aggregate} (ran : (p.single function).run st = (.ok r, st')) :
    p.Answered Q r st'.store := by
  rw [single] at ran
  split at ran
  · cases ran
  · obtain ⟨inquiry, between, _, ran⟩ := Run.run_bind_ok ran
    obtain ⟨value, after, _, ran⟩ := Run.run_bind_ok ran
    cases ran
    exact ⟨.inl rfl, Response.flagged_ofData.withBool⟩

/-- An answer to a reading request shows rows of the store or shows no rows, unless it is a list
that is answered from the cache. -/
theorem reading_answers {e : Engine} (shows : p.Shows Q) {run : Run Response}
    (h : e.handling p = .reading run) (ran : run.run st = (.ok r, st')) :
    p.Answered Q r st'.store ∨ p.query.operation = .read ∧ p.Hits e.defaultLimit st r := by
  have byScript {script : Script Response} (ends : script.Ends (p.Answered Q))
      (ran : (Run.ofScript script).run st = (.ok r, st')) : p.Answered Q r st'.store := by
    have outcome : (script.run st.store).1 = .ok r := congrArg Prod.fst ran
    have left : (script.run st.store).2 = st'.store := congrArg (fun result => result.2.store) ran
    exact ends st.store r st'.store (Prod.ext outcome left)
  rw [handling] at h
  split at h <;> cases h
  · rename_i op
    exact (list_answers shows ran).imp_right fun hit => ⟨op, hit⟩
  · exact .inl (byScript (ends_get shows) ran)
  · exact .inl (byScript (ends_first shows) ran)
  · exact .inl (byScript (ends_last shows) ran)
  · exact .inl (byScript ends_exist ran)
  · exact .inl (single_answers ran)
  · obtain ⟨found, between, _, ran⟩ := Run.run_bind_ok ran
    cases ran
    exact .inl ⟨.inl rfl, Response.flagged_ofData.withBool⟩

end Plan

namespace Engine
variable {e : Engine} {st st' : State} {model : String} {q : Query} {request : Request}
  {r : Response} {deliveries : List Delivery}

theorem sourced_of_recorded {key : String} {value : Value} (h : e.Recorded key value) :
    Sourced e.catalog value := by
  obtain ⟨p, _, _, inquiry, s, planned, inquires, _, computed⟩ := h
  cases inquires with
  | list _ made =>
    obtain ⟨d, is, shows⟩ := Plan.listInquiry_ends p.shows_displays.presentAll made s value _
      (Prod.ext computed rfl)
    exact .inl ⟨d, by rw [is.accessed, planned.catalog], shows⟩
  | aggregate made => exact .inr (Plan.aggregated_of_run made computed)

theorem sound_of_reached (reached : e.Reached st) : Sound e.catalog st :=
  fun key value found => sourced_of_recorded (recorded_of_reached reached key value found)

/-- An answer shows what its plan shows of the store, unless it is a list that is answered from the
cache. -/
theorem execute_shows {Q : Plan → Value → Store → Prop}
    (shows : ∀ p, (e.accessOf request).plan model q = .ok p → p.Shows (Q p))
    (executed : e.execute model q request st = (⟨.ok r, deliveries⟩, st')) :
    ∃ p, (e.accessOf request).plan model q = .ok p ∧
      ((∃ s : Store, s.commit = st'.store.commit ∧ p.Answered (Q p) r s) ∨
        q.operation = .read ∧ p.Hits e.defaultLimit st r) := by
  rw [execute] at executed
  split at executed
  case h_2 => cases executed
  case h_1 p planned =>
    refine ⟨p, planned, ?_⟩
    rw [runPlan] at executed
    split at executed
    case h_1 run reading =>
      match ran : run.run st with
      | (answer, after) =>
        rw [ran] at executed
        cases executed
        rw [← (Access.plans_of_plan planned).asked]
        exact (Plan.reading_answers (shows p planned) reading ran).imp_left fun fresh =>
          ⟨st'.store, rfl, fresh⟩
    case h_2 script writing =>
      left
      rw [transact] at executed
      split at executed
      · rename_i written s ran
        cases executed
        exact ⟨s, rfl, Plan.ends_writing (shows p planned) writing _ written s ran⟩
      · cases executed

/-- An answered list shows what its plan lists, unless it is answered from the cache. -/
theorem execute_lists {Q : Plan → Value → Store → Prop} (read : q.operation = .read)
    (all : ∀ p, (e.accessOf request).plan model q = .ok p → ∀ rows, (p.presentAll rows).Ends (Q p))
    (executed : e.execute model q request st = (⟨.ok r, deliveries⟩, st')) :
    ∃ p, (e.accessOf request).plan model q = .ok p ∧
      (Q p r.data st'.store ∨ p.Hits e.defaultLimit st r) := by
  rw [execute] at executed
  split at executed
  case h_2 => cases executed
  case h_1 p planned =>
    have handled : e.handling p = .reading (p.list e.defaultLimit) := by
      rw [handling, (Access.plans_of_plan planned).asked, read]
    refine ⟨p, planned, ?_⟩
    rw [runPlan, handled] at executed
    rcases ran : (p.list e.defaultLimit).run st with ⟨answer, after⟩
    simp only [ran] at executed
    cases executed
    exact (Plan.list_shows (all p planned) ran).imp_left And.left

theorem execute_answers (executed : e.execute model q request st = (⟨.ok r, deliveries⟩, st')) :
    ∃ p, (e.accessOf request).plan model q = .ok p ∧
      ((∃ s : Store, s.commit = st'.store.commit ∧ p.Answers r s) ∨
        request.transaction ≠ none ∧ ∃ key, st.cache.peek key = some r.data) := by
  obtain ⟨p, planned, ⟨s, same, answered, _⟩ | ⟨_, hit⟩⟩ :=
    execute_shows (fun p _ => p.shows_displays) executed
  · exact ⟨p, planned, .inl ⟨s, same, answered⟩⟩
  · have own : p.request = request := by
      rw [Plan.request, (Access.plans_of_plan planned).accessed]
      rfl
    have within := hit.transaction
    obtain ⟨_, key, _, _, found⟩ := hit.found
    rw [own] at within
    exact ⟨p, planned, .inr ⟨within, key, found⟩⟩

end Engine

end GuardedQuery
