import GuardedQuery.Proofs.Engine.Courses
import Mathlib.Logic.Function.Basic

/-! Calls for cached answers and mutations whose steps are interleaved. A call looks its key up,
claims it, computes against the store as it then is, and puts what it has computed. A mutation
begins its transaction, which waits until no other one is open, writes, and commits or rolls back;
its invalidation follows the commit as a step of its own. An operation writes at most once, so its
script is one step. Reading does not wait for transactions. -/

namespace GuardedQuery

/-- A call is under way once it has looked and until it ends. -/
def Cache.Phase.isUnderWay : Phase → Bool
  | fresh | ended _ | dropped => false
  | apart | missed _ | leading _ | waiting .. | alone _ => true

namespace Engine

/-- How far a mutation has come. -/
inductive Stage where
  | idle
  /-- Its transaction is open. -/
  | begun
  /-- Its transaction is open, and its script has run. -/
  | wrote (outcome : Except Error Written)
  /-- It has committed, and its invalidation is due. -/
  | due
  | ended

namespace Stage

def isOpen : Stage → Bool
  | begun | wrote _ => true
  | idle | due | ended => false

def isUnderWay : Stage → Bool
  | begun | wrote _ | due => true
  | idle | ended => false

end Stage

/-- Calls and mutations of one transaction, each with a name. -/
structure Traffic (ι κ : Type) where
  transaction : String
  inquiry : ι → Inquiry
  plan : κ → Plan
  script : κ → Script Written

/-- What there is between two steps. -/
structure Moment (ι κ : Type) where
  store : Store
  cache : Cache
  phase : ι → Cache.Phase
  /-- What a call has computed, if it has. -/
  result : ι → Option (Except Error Value)
  stage : κ → Stage

inductive Act (ι κ : Type) where
  | look (call : ι)
  | claim (call : ι)
  | wake (call : ι)
  | giveUp (call : ι)
  | compute (call : ι)
  /-- Puts what has been computed, and ends the call. -/
  | finish (call : ι)
  | drop (call : ι)
  | begin (mutation : κ)
  | write (mutation : κ)
  | commit (mutation : κ)
  | rollback (mutation : κ)
  | invalidate (mutation : κ)
  /-- A value leaves the cache for its age or for want of room. -/
  | evict (key : String)
  | deliver (notice : Cache.Notice)
  deriving DecidableEq

namespace Moment
variable {ι κ : Type} {m : Moment ι κ}

/-- A store, nothing cached, and nobody under way. -/
def start (s : Store) (settings : CacheSettings) : Moment ι κ :=
  ⟨s, .ofSettings settings, fun _ => .fresh, fun _ => none, fun _ => .idle⟩

/-- No call and no mutation is in progress. -/
def Quiet (m : Moment ι κ) : Prop :=
  (∀ i, (m.phase i).isUnderWay = false) ∧ ∀ j, (m.stage j).isUnderWay = false

section Call
variable [DecidableEq ι] {i k : ι}

/-- A call takes a step. -/
def call (m : Moment ι κ) (i : ι) (next : Cache.Phase × Cache) : Moment ι κ :=
  { m with phase := Function.update m.phase i next.1, cache := next.2 }

def compute (m : Moment ι κ) (i : ι) (result : Except Error Value) : Moment ι κ :=
  { m with result := Function.update m.result i (some result) }

@[simp] theorem call_phase_self (next : Cache.Phase × Cache) : (m.call i next).phase i = next.1 := by
  simp [call]

theorem call_phase_of_ne (ne : k ≠ i) (next : Cache.Phase × Cache) :
    (m.call i next).phase k = m.phase k := by
  simp [call, ne]

@[simp] theorem call_call (earlier later : Cache.Phase × Cache) :
    (m.call i earlier).call i later = m.call i later := by
  simp [call]

@[simp] theorem compute_result_self (result : Except Error Value) :
    (m.compute i result).result i = some result := by
  simp [compute]

theorem compute_result_of_ne (ne : k ≠ i) (result : Except Error Value) :
    (m.compute i result).result k = m.result k := by
  simp [compute, ne]

end Call

section Mutation
variable [DecidableEq κ] {j l : κ}

/-- A mutation takes a step. -/
def bring (m : Moment ι κ) (j : κ) (stage : Stage) (store : Store) : Moment ι κ :=
  { m with stage := Function.update m.stage j stage, store }

@[simp] theorem bring_stage_self (stage : Stage) (store : Store) :
    (m.bring j stage store).stage j = stage := by
  simp [bring]

theorem bring_stage_of_ne (ne : l ≠ j) (stage : Stage) (store : Store) :
    (m.bring j stage store).stage l = m.stage l := by
  simp [bring, ne]

end Mutation

end Moment

namespace Traffic
variable {ι κ : Type} [DecidableEq ι] [DecidableEq κ]

/-- Takes a step, if it can be taken. -/
def step (t : Traffic ι κ) (m : Moment ι κ) : Act ι κ → Option (Moment ι κ)
  | .look i =>
    match m.phase i with
    | .fresh => some (m.call i (m.cache.look (t.inquiry i).job))
    | _ => none
  | .claim i =>
    match m.phase i with
    | .missed key => some (m.call i (m.cache.claim (.missed key)))
    | _ => none
  | .wake i =>
    match m.phase i with
    | .waiting key ticket => some (m.call i (m.cache.wake (.waiting key ticket)))
    | _ => none
  | .giveUp i =>
    match m.phase i with
    | .waiting key ticket => some (m.call i (Cache.giveUpWaiting (.waiting key ticket), m.cache))
    | _ => none
  | .compute i =>
    match (m.phase i).computes, m.result i with
    | true, none => some (m.compute i ((t.inquiry i).script.run m.store).1)
    | _, _ => none
  | .finish i =>
    match (m.phase i).computes, m.result i with
    | true, some result => some (m.call i (m.cache.finish (t.inquiry i).job result (m.phase i)))
    | _, _ => none
  | .drop i => some (m.call i (m.cache.drop (m.phase i)))
  | .begin j =>
    match m.stage j, m.store.saved with
    | .idle, none => some (m.bring j .begun m.store.begin)
    | _, _ => none
  | .write j =>
    match m.stage j with
    | .begun =>
      let (outcome, store) := (t.script j).run m.store
      some (m.bring j (.wrote outcome) store)
    | _ => none
  | .commit j =>
    match m.stage j with
    | .wrote (.ok written) =>
      some (m.bring j (if written.events.isEmpty then .ended else .due) m.store.commit)
    | _ => none
  | .rollback j => if (m.stage j).isOpen then some (m.bring j .ended m.store.rollback) else none
  | .invalidate j =>
    match m.stage j with
    | .due =>
      let cache := m.cache.invalidate t.transaction (t.plan j).name
      some (.bring { m with cache } j .ended m.store)
    | _ => none
  | .evict key => some { m with cache := m.cache.remove key }
  | .deliver notice =>
    if notice ∈ m.cache.notices then some { m with cache := m.cache.deliver notice } else none

def run (t : Traffic ι κ) (m : Moment ι κ) (acts : List (Act ι κ)) : Option (Moment ι κ) :=
  acts.foldlM t.step m

/-- The steps that can be taken, and where they lead. -/
inductive Takes (t : Traffic ι κ) (m : Moment ι κ) : Act ι κ → Moment ι κ → Prop where
  | look {i : ι} (fresh : m.phase i = .fresh) :
      Takes t m (.look i) (m.call i (m.cache.look (t.inquiry i).job))
  | claim {i : ι} {key : String} (missed : m.phase i = .missed key) :
      Takes t m (.claim i) (m.call i (m.cache.claim (.missed key)))
  | wake {i : ι} {key : String} {ticket : Cache.Ticket} (waiting : m.phase i = .waiting key ticket) :
      Takes t m (.wake i) (m.call i (m.cache.wake (.waiting key ticket)))
  | giveUp {i : ι} {key : String} {ticket : Cache.Ticket}
      (waiting : m.phase i = .waiting key ticket) :
      Takes t m (.giveUp i) (m.call i (.alone key, m.cache))
  | compute {i : ι} (computes : (m.phase i).computes = true) (new : m.result i = none) :
      Takes t m (.compute i) (m.compute i ((t.inquiry i).script.run m.store).1)
  | finish {i : ι} {result : Except Error Value} (computes : (m.phase i).computes = true)
      (computed : m.result i = some result) :
      Takes t m (.finish i) (m.call i (m.cache.finish (t.inquiry i).job result (m.phase i)))
  | drop {i : ι} : Takes t m (.drop i) (m.call i (m.cache.drop (m.phase i)))
  | begin {j : κ} (idle : m.stage j = .idle) (closed : m.store.saved = none) :
      Takes t m (.begin j) (m.bring j .begun m.store.begin)
  | write {j : κ} (begun : m.stage j = .begun) :
      Takes t m (.write j)
        (m.bring j (.wrote ((t.script j).run m.store).1) ((t.script j).run m.store).2)
  | commit {j : κ} {written : Written} (wrote : m.stage j = .wrote (.ok written)) :
      Takes t m (.commit j)
        (m.bring j (if written.events.isEmpty then .ended else .due) m.store.commit)
  | rollback {j : κ} (opened : (m.stage j).isOpen = true) :
      Takes t m (.rollback j) (m.bring j .ended m.store.rollback)
  | invalidate {j : κ} (due : m.stage j = .due) :
      Takes t m (.invalidate j)
        (.bring { m with cache := m.cache.invalidate t.transaction (t.plan j).name } j .ended m.store)
  | evict {key : String} : Takes t m (.evict key) { m with cache := m.cache.remove key }
  | deliver {notice : Cache.Notice} (pending : notice ∈ m.cache.notices) :
      Takes t m (.deliver notice) { m with cache := m.cache.deliver notice }

variable {t : Traffic ι κ} {m m' : Moment ι κ} {acts : List (Act ι κ)} {a : Act ι κ}

theorem takes_of_step (taken : t.step m a = some m') : t.Takes m a m' := by
  cases a <;> simp only [step] at taken
  case drop | evict =>
    cases taken
    constructor
  case rollback | deliver =>
    split at taken <;> cases taken
    constructor
    assumption
  case look | claim | wake | giveUp | write | commit | invalidate =>
    split at taken <;> cases taken
    constructor
    assumption
  case compute | finish | begin =>
    split at taken <;> cases taken
    constructor <;> assumption

/-- What holds at the start and is kept by every step holds all along. -/
theorem run_induction {P : List (Act ι κ) → Moment ι κ → Prop} (start : P [] m)
    (kept : ∀ acts m a m', P acts m → t.Takes m a m' → P (acts ++ [a]) m')
    (ran : t.run m acts = some m') : P acts m' :=
  Checks.foldlM_induction start
    (fun acts a m m' holds taken => kept acts m a m' holds (takes_of_step taken)) ran

theorem step_of_takes (taken : t.Takes m a m') : t.step m a = some m' := by
  cases taken <;> simp_all [step, Cache.giveUpWaiting]

/-! By itself, a call goes as `Cache.run` has it, and a mutation as `Engine.transact`. -/

/-- Some steps lead from one moment to the other. -/
def Leads (t : Traffic ι κ) (m m' : Moment ι κ) : Prop := ∃ acts, t.run m acts = some m'

theorem Leads.refl (m : Moment ι κ) : t.Leads m m := ⟨[], rfl⟩

theorem Leads.step {between : Moment ι κ} (taken : t.Takes m a between)
    (others : t.Leads between m') : t.Leads m m' := by
  obtain ⟨acts, ran⟩ := others
  exact ⟨a :: acts, by simp [run, step_of_takes taken, ← ran]⟩

theorem Leads.trans {between : Moment ι κ} (h : t.Leads m between) (h' : t.Leads between m') :
    t.Leads m m' := by
  obtain ⟨acts, ran⟩ := h
  obtain ⟨others, ran'⟩ := h'
  refine ⟨acts ++ others, ?_⟩
  rw [run, List.foldlM_append, ← run, ran]
  exact ran'

variable {i : ι} {j : κ}

theorem leads_start (fresh : m.phase i = .fresh) :
    t.Leads m (m.call i (m.cache.start (t.inquiry i).job)) := by
  refine .step (.look fresh) ?_
  rcases looked : m.cache.look (t.inquiry i).job with ⟨phase, c⟩
  rw [Cache.start, looked]
  cases phase with
  | missed key =>
    refine .step (.claim (Moment.call_phase_self _)) ?_
    rw [Moment.call_call]
    exact .refl _
  | fresh | apart | leading | waiting | alone | ended | dropped => exact .refl _

theorem leads_compute {phase : Cache.Phase} (computes : phase.computes = true)
    (new : m.result i = none) (c : Cache) :
    t.Leads (m.call i (phase, c)) ((m.compute i ((t.inquiry i).script.run m.store).1).call i
      (c.finish (t.inquiry i).job ((t.inquiry i).script.run m.store).1 phase)) := by
  have here : (m.call i (phase, c)).phase i = phase := Moment.call_phase_self _
  refine .step (.compute (by rwa [here]) new) (.step (.finish ?_ (Moment.compute_result_self _)) ?_)
  · exact (congrArg Cache.Phase.computes here).trans computes
  · change t.Leads (((m.compute i _).call i (phase, c)).call i
      (c.finish _ _ ((m.call i (phase, c)).phase i))) _
    rw [Moment.call_call, here]
    exact .refl _

/-- A follower that gives up waiting computes as others do. -/
theorem leads_finish {phase : Cache.Phase}
    (computes : (Cache.giveUpWaiting phase).computes = true) (new : m.result i = none) (c : Cache) :
    t.Leads (m.call i (phase, c)) ((m.compute i ((t.inquiry i).script.run m.store).1).call i
      (c.finish (t.inquiry i).job ((t.inquiry i).script.run m.store).1
        (Cache.giveUpWaiting phase))) := by
  cases phase with
  | waiting key ticket =>
    refine .step (.giveUp (Moment.call_phase_self _)) ?_
    rw [Moment.call_call]
    exact leads_compute rfl new c
  | fresh | apart | missed | leading | alone | ended | dropped => exact leads_compute computes new c

theorem leads_call (fresh : m.phase i = .fresh) (new : m.result i = none) :
    ∃ m', t.Leads m m' ∧
      m'.phase i = .ended (m.cache.run (t.inquiry i).job (t.inquiry i).script.run m.store).1 ∧
      m'.cache = (m.cache.run (t.inquiry i).job (t.inquiry i).script.run m.store).2.1 := by
  have starts : t.Leads m (m.call i (m.cache.start (t.inquiry i).job)) := leads_start fresh
  have begins := (m.cache.start_begins (t.inquiry i).job).1
  rw [Cache.run]
  generalize m.cache.start (t.inquiry i).job = started at starts begins
  obtain ⟨phase, c⟩ := started
  have goes (computes : (Cache.giveUpWaiting phase).computes = true) :=
    starts.trans (leads_finish computes new c)
  cases begins with
  | hit => exact ⟨_, starts, Moment.call_phase_self _, rfl⟩
  | apart => exact ⟨_, goes rfl, Moment.call_phase_self _, rfl⟩
  | leading | waiting =>
    refine ⟨_, goes rfl, (Moment.call_phase_self _).trans ?_, rfl⟩
    cases ((t.inquiry i).script.run m.store).1 <;> rfl

theorem leads_mutation {e : Engine} (idle : m.stage j = .idle) (closed : m.store.saved = none)
    (own : (t.plan j).request.transaction = some t.transaction) :
    ∃ m', t.Leads m m' ∧ m'.stage j = .ended ∧
      m'.store = (e.transact (t.plan j) (t.script j) ⟨m.store, m.cache⟩).2.store ∧
      m'.cache.Erodes (e.transact (t.plan j) (t.script j) ⟨m.store, m.cache⟩).2.cache := by
  have begins {between : Moment ι κ} (next : t.Leads ((m.bring j .begun m.store.begin).bring j
      (.wrote ((t.script j).run m.store.begin).1) ((t.script j).run m.store.begin).2) between) :
      t.Leads m between :=
    .step (.begin idle closed) (.step (.write (Moment.bring_stage_self _ _)) next)
  rw [transact]
  rcases ran : (t.script j).run m.store.begin with ⟨fault | written, after⟩ <;> rw [ran] at begins
  · refine ⟨_, begins (.step (.rollback ?_) (.refl _)), Moment.bring_stage_self _ _, rfl, .refl⟩
    exact congrArg Stage.isOpen (Moment.bring_stage_self _ _)
  · have commits := Takes.commit (t := t) (Moment.bring_stage_self
      (m := m.bring j .begun m.store.begin) (j := j) (.wrote (.ok written)) after)
    have drops := dropped_erodes m.cache (t.plan j).request (t.plan j).name written.events
    unfold dropped at drops
    rw [own] at drops
    cases silent : written.events.isEmpty with
    | true =>
      rw [silent] at commits drops
      exact ⟨_, begins (.step commits (.refl _)), Moment.bring_stage_self _ _, rfl, drops⟩
    | false =>
      rw [silent] at commits drops
      refine ⟨_, begins (.step commits (.step (.invalidate ?_) (.refl _))),
        Moment.bring_stage_self _ _, rfl, drops⟩
      exact Moment.bring_stage_self _ _

end Traffic

end Engine

end GuardedQuery
