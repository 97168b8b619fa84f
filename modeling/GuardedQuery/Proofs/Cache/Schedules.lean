import GuardedQuery.Proofs.Cache.Coalescing

/-! Calls as they are run. A call by itself and calls that start together take the steps that are
interleaved elsewhere, so what is true of every interleaving is true of them. -/

namespace GuardedQuery.Cache

namespace Crowd

namespace Point
variable {c d : Cache} {job : Job}

/-! What a call does by itself -/

/-- Takes some steps while nothing else happens. -/
def follow (job : Job) (place : Point × Cache) (moves : List Move) : Option (Point × Cache) :=
  moves.foldlM (fun place move => place.1.go place.2 job move) place

/-- Some steps of a call lead from one place to another. -/
def Leads (job : Job) (place place' : Point × Cache) : Prop :=
  ∃ moves, follow job place moves = some place'

namespace Leads
variable {place place' place'' : Point × Cache}

theorem refl (place : Point × Cache) : Leads job place place := ⟨[], rfl⟩

theorem trans (h : Leads job place place') (h' : Leads job place' place'') :
    Leads job place place'' := by
  obtain ⟨moves, led⟩ := h
  obtain ⟨others, led'⟩ := h'
  refine ⟨moves ++ others, ?_⟩
  rw [follow] at led led' ⊢
  rw [List.foldlM_append, led]
  exact led'

theorem step {point next : Point} (move : Move)
    (gone : point.go c job move = some (next, d)) : Leads job (point, c) (next, d) :=
  ⟨[move], by simp only [follow, List.foldlM_cons, gone]; rfl⟩

theorem start (c : Cache) (job : Job) :
    Leads job (inPhase .fresh, c) (inPhase (c.start job).1, (c.start job).2) := by
  have looked : Leads job (inPhase .fresh, c) (inPhase (c.look job).1, (c.look job).2) :=
    .step .look rfl
  refine looked.trans ?_
  change Leads job _ (inPhase ((c.look job).2.claim (c.look job).1).1,
    ((c.look job).2.claim (c.look job).1).2)
  cases (c.look job).1 with
  | missed key => exact .step .claim rfl
  | fresh | apart | leading | waiting | alone | ended | dropped => exact .refl _

/-- A value that has been computed is put in halves before its call returns. -/
theorem finish (c : Cache) (job : Job) (result : Except Error Value) {phase : Phase}
    (computes : phase.computes = true) :
    Leads job (inPhase phase, c)
      (inPhase (c.finish job result phase).1, (c.finish job result phase).2) := by
  cases phase with
  | fresh | missed | waiting | ended | dropped => cases computes
  | apart => exact ⟨[.compute result, .finish], by cases result <;> rfl⟩
  | leading key | alone key =>
    cases result with
    | ok value => exact ⟨[.compute (.ok value), .record, .insert, .finish], rfl⟩
    | error fault => exact ⟨[.compute (.error fault), .finish], rfl⟩

theorem giveUp (c : Cache) (job : Job) (phase : Phase) :
    Leads job (inPhase phase, c) (inPhase (giveUpWaiting phase), c) := by
  cases phase with
  | waiting key ticket => exact .step .giveUp rfl
  | fresh | apart | missed | leading | alone | ended | dropped => exact .refl _

theorem wake (c : Cache) (job : Job) (phase : Phase) :
    Leads job (inPhase phase, c) (inPhase (c.wake phase).1, (c.wake phase).2) := by
  cases phase with
  | fresh | apart | missed | leading | alone | ended | dropped => exact .refl _
  | waiting key ticket =>
    rw [Cache.wake]
    cases heard : c.flights.signal ticket with
    | pending => exact .refl _
    | none => exact .step .hear (by simp only [go, heard])
    | given =>
      have woken : Leads job (inPhase (.waiting key ticket), c) (woken key, c) :=
        .step .hear (by simp only [go, heard])
      refine woken.trans ?_
      cases found : c.peek key with
      | some value => exact .step .reread (by simp only [go, found])
      | none => exact .step .reread (by simp only [go, found])

/-- A call that is by itself can go as it does when it is run. -/
theorem run {σ : Type} (c : Cache) (job : Job) (compute : σ → Except Error Value × σ) (s : σ) :
    Leads job (inPhase .fresh, c)
      (inPhase (.ended (c.run job compute s).1), (c.run job compute s).2.1) := by
  have started := start c job
  obtain ⟨begins, -⟩ := c.start_begins job
  rw [Cache.run]
  generalize c.start job = begun at started begins
  obtain ⟨phase, d⟩ := begun
  have ended (computes : (giveUpWaiting phase).computes = true) : Leads job (inPhase .fresh, c)
      (inPhase (.ended (compute s).1), (d.finish job (compute s).1 (giveUpWaiting phase)).2) := by
    rw [← (d.finish_puts job (compute s).1 computes).1]
    exact (started.trans (giveUp d job phase)).trans (finish d job _ computes)
  cases begins with
  | hit => exact started
  | apart | leading | waiting => exact ended rfl

end Leads

end Point

variable {ι : Type} [DecidableEq ι] {job : ι → Job} {m m' m'' : Crowd ι}

/-! What a call does among others -/

/-- Something can happen that leads from one crowd to another. -/
def Reaches (job : ι → Job) (m m' : Crowd ι) : Prop := ∃ acts, m.run job acts = some m'

theorem Reaches.refl (m : Crowd ι) : m.Reaches job m := ⟨[], rfl⟩

theorem Reaches.trans (h : m.Reaches job m') (h' : m'.Reaches job m'') : m.Reaches job m'' := by
  obtain ⟨acts, ran⟩ := h
  obtain ⟨others, ran'⟩ := h'
  refine ⟨acts ++ others, ?_⟩
  rw [run] at ran ran' ⊢
  rw [List.foldlM_append, ran]
  exact ran'

/-- What a call does by itself it also does among others. -/
theorem run_call (i : ι) {moves : List Move} {place : Point × Cache}
    (followed : Point.follow (job i) (m.point i, m.cache) moves = some place) :
    m.run job (moves.map (.call i)) = some ⟨place.2, Function.update m.point i place.1⟩ := by
  induction moves generalizing m with
  | nil =>
    cases followed
    rw [Function.update_eq_self]
    rfl
  | cons move rest ih =>
    rw [Point.follow, List.foldlM_cons] at followed
    obtain ⟨next, gone, further⟩ := Option.bind_eq_some_iff.1 followed
    have taken : m.step job (.call i move) =
        some ⟨next.2, Function.update m.point i next.1⟩ := by
      rw [step, gone]
      rfl
    have placed : Point.follow (job i) (Function.update m.point i next.1 i, next.2) rest =
        some place := by
      rw [Function.update_self]
      exact further
    have later := @ih ⟨next.2, Function.update m.point i next.1⟩ placed
    rw [Function.update_idem] at later
    rw [List.map_cons, run, List.foldlM_cons, taken]
    exact later

theorem Reaches.call (m : Crowd ι) (i : ι) {next : Point} {d : Cache}
    (leads : Point.Leads (job i) (m.point i, m.cache) (next, d)) :
    m.Reaches job ⟨d, Function.update m.point i next⟩ := by
  obtain ⟨moves, followed⟩ := leads
  exact ⟨_, run_call i followed⟩

/-! Calls that start together -/

/-- The points of callers that are named by their places. -/
def seats (callers : List Caller) (n : Nat) : Point :=
  (callers[n]?).elim (.inPhase .fresh) fun caller => .inPhase caller.phase

theorem seats_replaced (before rest : List Caller) (caller caller' : Caller) :
    seats (before ++ caller' :: rest) =
      Function.update (seats (before ++ caller :: rest)) before.length
        (.inPhase caller'.phase) := by
  have set : before ++ caller' :: rest = (before ++ caller :: rest).set before.length caller' := by
    simp
  funext n
  rw [set, seats, List.getElem?_set, Function.update_apply]
  by_cases same : n = before.length
  · simp [same]
  · rw [if_neg (Ne.symm same), if_neg same, seats]

/-- Callers are taken through a step one after another, beside others before them. -/
theorem reaches_eachCaller {job : Job} {step : Cache → Caller → Caller × Cache}
    (before : List Caller) (c : Cache) (callers : List Caller)
    (leads : ∀ caller ∈ callers, ∀ c, Point.Leads job (.inPhase caller.phase, c)
      (.inPhase (step c caller).1.phase, (step c caller).2)) :
    Reaches (fun _ => job) ⟨c, seats (before ++ callers)⟩
      ⟨(eachCaller step c callers).2, seats (before ++ (eachCaller step c callers).1)⟩ := by
  induction callers generalizing before c with
  | nil => exact .refl _
  | cons caller rest ih =>
    obtain ⟨here, others⟩ := List.forall_mem_cons.1 leads
    have seated : seats (before ++ caller :: rest) before.length = .inPhase caller.phase := by
      simp [seats]
    have first : Reaches (fun _ => job) ⟨c, seats (before ++ caller :: rest)⟩
        ⟨(step c caller).2, seats (before ++ (step c caller).1 :: rest)⟩ := by
      rw [seats_replaced before rest caller (step c caller).1]
      refine .call ⟨c, seats (before ++ caller :: rest)⟩ before.length ?_
      change Point.Leads job (seats (before ++ caller :: rest) before.length, c) _
      rw [seated]
      exact here c
    have later := ih (before ++ [(step c caller).1]) (step c caller).2 others
    simp only [List.append_assoc, List.singleton_append] at later
    exact first.trans later

section
variable (job : Job)

theorem leads_startCaller {caller : Caller} (fresh : caller.phase = .fresh) (c : Cache) :
    Point.Leads job (.inPhase caller.phase, c)
      (.inPhase (startCaller job c caller).1.phase, (startCaller job c caller).2) := by
  rw [fresh]
  exact .start c job

theorem leads_finishCaller (caller : Caller) (c : Cache) :
    Point.Leads job (.inPhase caller.phase, c)
      (.inPhase (finishCaller job c caller).1.phase, (finishCaller job c caller).2) := by
  rw [finishCaller]
  split
  · exact .finish c job caller.result (by assumption)
  · exact .refl _

theorem leads_wakeCaller (caller : Caller) (c : Cache) :
    Point.Leads job (.inPhase caller.phase, c)
      (.inPhase (wakeCaller c caller).1.phase, (wakeCaller c caller).2) :=
  (Point.Leads.wake c job caller.phase).trans (.giveUp _ job _)

/-- What becomes of several calls that start together is one of the things that can happen. -/
theorem reaches_together (c : Cache) (results : List (Except Error Value)) :
    Reaches (fun _ => job) (start c)
      ⟨(c.together job results).2, seats (c.together job results).1⟩ := by
  have fresh : (start c : Crowd Nat) = ⟨c, seats (results.map (⟨.fresh, ·, false⟩))⟩ := by
    rw [start]
    congr 1
    funext n
    rw [seats, List.getElem?_map]
    cases results[n]? <;> rfl
  have all : ∀ caller ∈ results.map (⟨.fresh, ·, false⟩ : _ → Caller), caller.phase = .fresh := by
    simp
  rw [fresh]
  have started := reaches_eachCaller [] c _ fun caller mem c =>
    leads_startCaller job (all caller mem) c
  have finished (c : Cache) (callers : List Caller) := reaches_eachCaller [] c callers
    fun caller _ => leads_finishCaller job caller
  have woken (c : Cache) (callers : List Caller) := reaches_eachCaller [] c callers
    fun caller _ => leads_wakeCaller job caller
  exact ((started.trans (finished _ _)).trans (woken _ _)).trans (finished _ _)

end

/-! How they end -/

section
variable {P Q : Caller → Prop} {step : Cache → Caller → Caller × Cache} {c : Cache} {job : Job}
  {caller : Caller}

theorem forall_eachCaller (kept : ∀ c caller, P caller → Q (step c caller).1) (c : Cache)
    {callers : List Caller} (before : ∀ caller ∈ callers, P caller) :
    ∀ caller ∈ (eachCaller step c callers).1, Q caller := by
  induction callers generalizing c with
  | nil => exact nofun
  | cons caller rest ih =>
    obtain ⟨first, others⟩ := List.forall_mem_cons.1 before
    exact List.forall_mem_cons.2 ⟨kept c caller first, ih _ others⟩

/-- The caller has been answered. -/
def Answered (caller : Caller) : Prop := ∃ outcome, caller.phase = .ended outcome

def Computes (caller : Caller) : Prop := caller.phase.computes = true

def Waits (caller : Caller) : Prop := ∃ key ticket, caller.phase = .waiting key ticket

theorem startCaller_cases (job : Job) (c : Cache) (caller : Caller) :
    Answered (startCaller job c caller).1 ∨ Computes (startCaller job c caller).1 ∨
      Waits (startCaller job c caller).1 := by
  simp only [Answered, Computes, Waits, startCaller]
  obtain ⟨begins, -⟩ := c.start_begins job
  generalize (c.start job).1 = phase at begins
  cases begins with
  | hit => exact .inl ⟨_, rfl⟩
  | apart | leading => exact .inr (.inl rfl)
  | waiting => exact .inr (.inr ⟨_, _, rfl⟩)

theorem finishCaller_answers (job : Job) (c : Cache) (h : Answered caller ∨ Computes caller) :
    Answered (finishCaller job c caller).1 := by
  rw [finishCaller]
  rcases h with ⟨outcome, ended⟩ | computes
  · rw [ended]
    exact ⟨outcome, ended⟩
  · rw [Computes] at computes
    rw [if_pos computes]
    exact ⟨_, (c.finish_puts job caller.result computes).1⟩

theorem finishCaller_waits (job : Job) (c : Cache) (h : Waits caller) :
    Waits (finishCaller job c caller).1 := by
  obtain ⟨key, ticket, waits⟩ := h
  rw [finishCaller, waits]
  exact ⟨key, ticket, waits⟩

theorem wakeCaller_cases (c : Cache) (h : Answered caller ∨ Waits caller) :
    Answered (wakeCaller c caller).1 ∨ Computes (wakeCaller c caller).1 := by
  simp only [Answered, Computes, wakeCaller]
  rcases h with ⟨outcome, ended⟩ | ⟨key, ticket, waits⟩
  · rw [ended]
    exact .inl ⟨outcome, rfl⟩
  · rw [waits, wake]
    split
    · exact .inr rfl
    · exact .inr rfl
    · split
      · exact .inl ⟨_, rfl⟩
      · exact .inr rfl

/-- All calls that start together are answered. -/
theorem together_answered (c : Cache) (job : Job) (results : List (Except Error Value)) :
    ∀ caller ∈ (c.together job results).1, Answered caller := by
  have started (c : Cache) (callers : List Caller) :
      ∀ caller ∈ (eachCaller (startCaller job) c callers).1,
        Answered caller ∨ Computes caller ∨ Waits caller :=
    forall_eachCaller (P := fun _ => True) (fun c caller _ => startCaller_cases job c caller) c
      fun _ _ => trivial
  have finished (c : Cache) (callers : List Caller)
      (before : ∀ caller ∈ callers, Answered caller ∨ Computes caller ∨ Waits caller) :
      ∀ caller ∈ (eachCaller (finishCaller job) c callers).1, Answered caller ∨ Waits caller := by
    refine forall_eachCaller (fun c caller h => ?_) c before
    rcases h with answered | computes | waits
    · exact .inl (finishCaller_answers job c (.inl answered))
    · exact .inl (finishCaller_answers job c (.inr computes))
    · exact .inr (finishCaller_waits job c waits)
  have woken (c : Cache) (callers : List Caller)
      (before : ∀ caller ∈ callers, Answered caller ∨ Waits caller) :
      ∀ caller ∈ (eachCaller wakeCaller c callers).1, Answered caller ∨ Computes caller :=
    forall_eachCaller (fun c _ h => wakeCaller_cases c h) c before
  refine forall_eachCaller (P := fun caller => Answered caller ∨ Computes caller)
    (fun c _ h => finishCaller_answers job c h) _ ?_
  exact woken _ _ (finished _ _ (started _ _))

/-- They leave nothing in flight if nothing was in flight before. -/
theorem together_lands (c : Cache) (job : Job) (results : List (Except Error Value))
    (grounded : c.flights.size = 0) : (c.together job results).2.flights.size = 0 := by
  obtain ⟨acts, ran⟩ := reaches_together job c results
  refine (slots_of_run grounded ran).size_eq_zero fun n => ?_
  change (seats (c.together job results).1 n).guard? = none
  rw [seats]
  cases seated : (c.together job results).1[n]? with
  | none => rfl
  | some caller =>
    obtain ⟨outcome, ended⟩ :=
      together_answered c job results caller (List.mem_of_getElem? seated)
    rw [Option.elim_some, ended]
    rfl

end

end Crowd

end GuardedQuery.Cache
