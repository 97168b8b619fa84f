import GuardedQuery.Proofs.Engine.Courses
import GuardedQuery.Proofs.Script.Calls
import Mathlib.Logic.Function.Basic

/-! Mutating requests whose steps are interleaved. A request that is turned away beforehand ends at
once. Any other one begins a transaction, which waits until no other one is open, makes the calls
of its script one at a time, and commits or rolls back. On the way it can be dropped, and then its
transaction is rolled back. -/

namespace GuardedQuery

namespace Engine
variable {e : Engine} {d : Demand} {script : Script Written}

/-! One mutation by itself -/

/-- The script of a request that writes and is not turned away. -/
def script? (e : Engine) (d : Demand) : Option (Script Written) :=
  match e.planOf d with
  | .ok p =>
    match e.handling p with
    | .writing script => some script
    | .reading _ => none
  | .error _ => none

/-- What is answered when a script has ended. -/
def outcomeOf (e : Engine) : Except Error Written → Outcome
  | .ok written => ⟨.ok written.response, Delivery.ofEvents e.emit written.events⟩
  | .error fault => ⟨.error fault, []⟩

/-- Ends the open transaction as the script has ended. -/
def close : Except Error Written → Store → Store
  | .ok _, s => s.commit
  | .error _, s => s.rollback

theorem saved_close (result : Except Error Written) (s : Store) :
    (close result s).saved = none := by
  cases result <;> rfl

theorem exists_plan_of_script? (known : e.script? d = some script) :
    ∃ p, e.planOf d = .ok p ∧ e.handling p = .writing script := by
  unfold script? at known
  split at known
  · rename_i p planned
    split at known
    · rename_i writing
      cases known
      exact ⟨p, planned, writing⟩
    · cases known
  · cases known

theorem script?_of_plan {p : Plan} (planned : e.planOf d = .ok p)
    (writing : e.handling p = .writing script) : e.script? d = some script := by
  simp only [script?, planned, writing]

/-- Executing a request that writes is running its script within a transaction. -/
theorem execute_script (known : e.script? d = some script) (st : State) :
    (e.execute d.model d.query d.request st).1 = e.outcomeOf (script.run st.store.begin).1 ∧
      (e.execute d.model d.query d.request st).2.store =
        close (script.run st.store.begin).1 (script.run st.store.begin).2 := by
  obtain ⟨p, planned, writing⟩ := exists_plan_of_script? known
  have whole : e.execute d.model d.query d.request st = e.transact p script st := by
    change (e.accessOf d.request).plan d.model d.query = .ok p at planned
    simp only [execute, planned, runPlan, writing]
  rw [whole, transact]
  rcases script.run st.store.begin with ⟨fault | written, after⟩ <;> exact ⟨rfl, rfl⟩

theorem execute_refused {fault : Error} (turned : e.planOf d = .error fault) (st : State) :
    e.execute d.model d.query d.request st = (⟨.error fault, []⟩, st) := by
  change (e.accessOf d.request).plan d.model d.query = .error fault at turned
  simp only [execute, turned]

/-! Requests one after another -/

/-- The calls that a request makes to a store. -/
def trail (e : Engine) (d : Demand) (s : Store) : List Store.Call :=
  match e.script? d with
  | some script => script.made s.begin
  | none => []

/-- The calls that each of some requests makes when they are served. -/
def trails (e : Engine) : List Demand → State → List (List Store.Call)
  | [], _ => []
  | d :: rest, st =>
    e.trail d st.store :: e.trails rest (e.execute d.model d.query d.request st).2

theorem serve_append (xs ys : List Demand) (st : State) :
    e.serve (xs ++ ys) st =
      ((e.serve xs st).1 ++ (e.serve ys (e.serve xs st).2).1,
        (e.serve ys (e.serve xs st).2).2) := by
  induction xs generalizing st with
  | nil => rfl
  | cons d rest ih => simp only [List.cons_append, serve, ih]

theorem trails_append (xs ys : List Demand) (st : State) :
    e.trails (xs ++ ys) st = e.trails xs st ++ e.trails ys (e.serve xs st).2 := by
  induction xs generalizing st with
  | nil => rfl
  | cons d rest ih => simp only [List.cons_append, trails, serve, ih]

theorem length_trails (xs : List Demand) (st : State) : (e.trails xs st).length = xs.length := by
  induction xs generalizing st with
  | nil => rfl
  | cons d rest ih => rw [trails, List.length_cons, List.length_cons, ih]

/-! Requests at the same time -/

/-- How far a request has come. -/
inductive Progress where
  | waiting
  /-- Its transaction is open, and this is left of its script. -/
  | running (rest : Script Written)
  | ended (outcome : Outcome)
  | dropped

namespace Progress

def isRunning : Progress → Bool
  | running _ => true
  | waiting | ended _ | dropped => false

def outcome? : Progress → Option Outcome
  | ended outcome => some outcome
  | waiting | running _ | dropped => none

end Progress

/-- Requests that are put to an engine at the same time, each with a name. -/
structure Race (κ : Type) where
  engine : Engine
  demand : κ → Demand

/-- What there is between two moves. -/
structure Point (κ : Type) where
  store : Store
  progress : κ → Progress
  /-- The calls that each request has made. -/
  calls : κ → List Store.Call

inductive Move (κ : Type) where
  /-- The request is turned away. -/
  | refuse (request : κ)
  | begin (request : κ)
  | call (request : κ)
  /-- The transaction commits, or rolls back if the script has failed. -/
  | finish (request : κ)
  | drop (request : κ)
  deriving DecidableEq

/-- The requests that have begun, in the order in which they have. -/
def begun {κ : Type} (moves : List (Move κ)) : List κ :=
  moves.filterMap fun
    | .begin j => some j
    | .refuse _ | .call _ | .finish _ | .drop _ => none

namespace Point
variable {κ : Type} {pt : Point κ}

def start (s : Store) : Point κ := ⟨s, fun _ => .waiting, fun _ => []⟩

/-- No transaction is open. -/
def Quiet (pt : Point κ) : Prop := ∀ j, (pt.progress j).isRunning = false

/-- The requests that have been answered after they had begun, in the order in which they had. -/
def order (pt : Point κ) (moves : List (Move κ)) : List κ :=
  (begun moves).filter fun j => (pt.progress j).outcome?.isSome

variable [DecidableEq κ] {j k : κ}

def bring (pt : Point κ) (j : κ) (progress : Progress) (store : Store) : Point κ :=
  { pt with progress := Function.update pt.progress j progress, store }

/-- A request makes a call of its script. -/
def make (pt : Point κ) (j : κ) (c : Store.Call) (next : c.Reply → Script Written) : Point κ :=
  { pt.bring j (.running (.resume next (pt.store.answer c).1)) (pt.store.answer c).2 with
    calls := Function.update pt.calls j (pt.calls j ++ [c]) }

@[simp] theorem bring_progress_self (progress : Progress) (store : Store) :
    (pt.bring j progress store).progress j = progress := by
  simp [bring]

theorem bring_progress_of_ne (ne : k ≠ j) (progress : Progress) (store : Store) :
    (pt.bring j progress store).progress k = pt.progress k := by
  simp [bring, ne]

theorem make_calls_of_ne (ne : k ≠ j) (c : Store.Call) (next : c.Reply → Script Written) :
    (pt.make j c next).calls k = pt.calls k := by
  simp [make, bring, ne]

theorem make_progress_of_ne (ne : k ≠ j) (c : Store.Call) (next : c.Reply → Script Written) :
    (pt.make j c next).progress k = pt.progress k :=
  bring_progress_of_ne ne _ (pt.store.answer c).2

end Point

namespace Race
variable {κ : Type} [DecidableEq κ]

/-- Makes a move, if it can be made. -/
def step (r : Race κ) (pt : Point κ) : Move κ → Option (Point κ)
  | .refuse j =>
    match pt.progress j, r.engine.planOf (r.demand j) with
    | .waiting, .error fault => some (pt.bring j (.ended ⟨.error fault, []⟩) pt.store)
    | _, _ => none
  | .begin j =>
    match pt.progress j, r.engine.script? (r.demand j), pt.store.saved with
    | .waiting, some script, none => some (pt.bring j (.running script) pt.store.begin)
    | _, _, _ => none
  | .call j =>
    match pt.progress j with
    | .running (.call c next) => some (pt.make j c next)
    | _ => none
  | .finish j =>
    match pt.progress j with
    | .running (.done result) =>
      some (pt.bring j (.ended (r.engine.outcomeOf result)) (close result pt.store))
    | _ => none
  | .drop j =>
    match pt.progress j with
    | .waiting => some (pt.bring j .dropped pt.store)
    | .running _ => some (pt.bring j .dropped pt.store.rollback)
    | _ => none

def run (r : Race κ) (pt : Point κ) (moves : List (Move κ)) : Option (Point κ) :=
  moves.foldlM r.step pt

/-- The moves that can be made, and where they lead. -/
inductive Takes (r : Race κ) (pt : Point κ) : Move κ → Point κ → Prop where
  | refuse {j : κ} {fault : Error} (waiting : pt.progress j = .waiting)
      (turned : r.engine.planOf (r.demand j) = .error fault) :
      Takes r pt (.refuse j) (pt.bring j (.ended ⟨.error fault, []⟩) pt.store)
  | begin {j : κ} {script : Script Written} (waiting : pt.progress j = .waiting)
      (known : r.engine.script? (r.demand j) = some script) (closed : pt.store.saved = none) :
      Takes r pt (.begin j) (pt.bring j (.running script) pt.store.begin)
  | call {j : κ} {c : Store.Call} {next : c.Reply → Script Written}
      (running : pt.progress j = .running (.call c next)) :
      Takes r pt (.call j) (pt.make j c next)
  | finish {j : κ} {result : Except Error Written}
      (running : pt.progress j = .running (.done result)) :
      Takes r pt (.finish j)
        (pt.bring j (.ended (r.engine.outcomeOf result)) (close result pt.store))
  | withdraw {j : κ} (waiting : pt.progress j = .waiting) :
      Takes r pt (.drop j) (pt.bring j .dropped pt.store)
  | abandon {j : κ} {rest : Script Written} (running : pt.progress j = .running rest) :
      Takes r pt (.drop j) (pt.bring j .dropped pt.store.rollback)

variable {r : Race κ} {pt pt' : Point κ} {moves : List (Move κ)} {a : Move κ}

theorem takes_of_step (taken : r.step pt a = some pt') : r.Takes pt a pt' := by
  cases a <;> simp only [step] at taken
  case refuse | begin =>
    split at taken <;> cases taken
    constructor <;> assumption
  case call | finish =>
    split at taken <;> cases taken
    constructor
    assumption
  case drop =>
    split at taken <;> cases taken
    · exact .withdraw (by assumption)
    · exact .abandon (by assumption)

theorem step_of_takes (taken : r.Takes pt a pt') : r.step pt a = some pt' := by
  cases taken <;> simp_all [step]

/-- What holds at the start and is kept by every move holds all along. -/
theorem run_induction {P : List (Move κ) → Point κ → Prop} (start : P [] pt)
    (kept : ∀ moves pt a pt', P moves pt → r.Takes pt a pt' → P (moves ++ [a]) pt')
    (ran : r.run pt moves = some pt') : P moves pt' :=
  Checks.foldlM_induction start
    (fun moves a pt pt' holds taken => kept moves pt a pt' holds (takes_of_step taken)) ran

end Race

end Engine

end GuardedQuery
