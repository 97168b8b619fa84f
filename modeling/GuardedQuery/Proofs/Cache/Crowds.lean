import GuardedQuery.Proofs.Cache.Calls
import GuardedQuery.Proofs.Checks
import Mathlib.Logic.Function.Basic

/-! Calls on one cache whose steps are interleaved, as finely as they can be. A call can be dropped
between any two of its steps, a put is cut in halves, and a follower may stop waiting before the
signal comes. Ending a flight is one step: its signal is heard by steps of the followers, which can
come as late as they like. -/

namespace GuardedQuery.Cache

/-! The halves of a put -/

/-- Takes a generation and records it; the value does not come before the next step. -/
def record (c : Cache) (key transaction : String) (models : NameSet) : Cache :=
  { c with
    index := c.index.record key c.generation transaction models
    generation := c.generation + 1 }

/-- Stores a value as of a generation. -/
def insert (c : Cache) (key : String) (generation : Nat) (value : Value) : Cache :=
  { c with
    entries := c.entries.insert key ⟨generation, value⟩
    notices := c.notices ++ c.noticesOf key }

theorem peek_insert_cases {c : Cache} {key other : String} {generation : Nat} {value found : Value}
    (h : (c.insert key generation value).peek other = some found) :
    c.peek other = some found ∨ other = key ∧ found = value := by
  have put : (({ c with generation } : Cache).put key "" .empty value).peek other = some found := h
  exact (peek_put_cases put).imp_left id

/-! The steps of one call -/

/-- The key whose slot is held by the guard of a call. -/
def Phase.guard? : Phase → Option String
  | leading key => some key
  | _ => none

namespace Crowd

/-- How far a call has come. -/
inductive Point where
  | inPhase (phase : Phase)
  /-- The signal of the leader has come. -/
  | woken (key : String)
  /-- The computation has ended. -/
  | computed (phase : Phase) (result : Except Error Value)
  /-- The value is on record, and has yet to be stored. -/
  | recorded (phase : Phase) (generation : Nat) (value : Value)
  | stored (phase : Phase) (value : Value)

namespace Point

/-- A guard is held until its call is over, also while the value is being put. -/
def guard? : Point → Option String
  | inPhase phase | computed phase _ | recorded phase _ _ | stored phase _ => phase.guard?
  | woken _ => none

def isOver : Point → Bool
  | inPhase (.ended _) | inPhase .dropped => true
  | _ => false

/-- A call is under way from its lookup until it is over. -/
def isUnderWay : Point → Bool
  | inPhase .fresh => false
  | point => !point.isOver

end Point

inductive Move where
  | look
  | claim
  /-- Receives the signal of the leader, or finds that none will come. -/
  | hear
  | reread
  | giveUp
  | compute (result : Except Error Value)
  | record
  | insert
  /-- Returns, which ends a guard that is held. -/
  | finish
  | drop

/-- Whether a step puts a value or a part of it. -/
def Move.puts : Move → Bool
  | record | insert => true
  | look | claim | hear | reread | giveUp | compute _ | finish | drop => false

namespace Point

/-- Takes a step, if it can be taken. A guard is released by the step that returns the value; at any
other end it gives its slot up. -/
def go (c : Cache) (job : Job) : Point → Move → Option (Point × Cache)
  | inPhase .fresh, .look => some (inPhase (c.look job).1, (c.look job).2)
  | inPhase (.missed key), .claim =>
    some (inPhase (c.claim (.missed key)).1, (c.claim (.missed key)).2)
  | inPhase (.waiting key ticket), .hear =>
    match c.flights.signal ticket with
    | .pending => none
    | .given => some (woken key, c)
    | .none => some (inPhase (.alone key), c)
  | woken key, .reread =>
    match c.peek key with
    | some value => some (inPhase (.ended (.ok value)),
        { c with counters.coalesced := c.counters.coalesced + 1 })
    | none => some (inPhase (.alone key), c)
  | inPhase (.waiting key _), .giveUp => some (inPhase (.alone key), c)
  | inPhase phase, .compute result =>
    if phase.computes then some (computed phase result, c) else none
  | computed phase (.ok value), .record =>
    phase.key?.map fun key =>
      (recorded phase c.generation value, c.record key job.transaction job.models)
  | recorded phase generation value, .insert =>
    phase.key?.map fun key => (stored phase value, c.insert key generation value)
  | computed phase result, .finish =>
    match phase.key?, result with
    | some _, .ok _ => none
    | _, _ =>
      some (inPhase (.ended result), phase.guard?.elim c c.crash)
  | stored phase value, .finish =>
    some (inPhase (.ended (.ok value)), phase.guard?.elim c c.landing)
  | point, .drop =>
    if point.isOver then none else some (inPhase .dropped, point.guard?.elim c c.crash)
  | _, _ => none

/-- The steps that can be taken, and where they lead. -/
inductive Goes (c : Cache) (job : Job) : Point → Move → Point → Cache → Prop where
  | skip (unnamed : c.keyOf job = none) : Goes c job (inPhase .fresh) .look (inPhase .apart) c.skip
  | hit {key : String} {value : Value} (named : c.keyOf job = some key)
      (held : c.peek key = some value) :
      Goes c job (inPhase .fresh) .look (inPhase (.ended (.ok value)))
        { c with counters.hits := c.counters.hits + 1 }
  | miss {key : String} (named : c.keyOf job = some key) (lacking : c.peek key = none) :
      Goes c job (inPhase .fresh) .look (inPhase (.missed key))
        { c with counters.misses := c.counters.misses + 1 }
  | lead {key : String} (free : c.flights.airborne.get? key = none) :
      Goes c job (inPhase (.missed key)) .claim (inPhase (.leading key))
        { c with flights := (c.flights.acquire key).2 }
  | follow {key : String} {flight : Nat} (taken : c.flights.airborne.get? key = some flight) :
      Goes c job (inPhase (.missed key)) .claim (inPhase (.waiting key ⟨flight, false⟩)) c
  | heard {key : String} {ticket : Ticket} (given : c.flights.signal ticket = .given) :
      Goes c job (inPhase (.waiting key ticket)) .hear (woken key) c
  | unheard {key : String} {ticket : Ticket} (silent : c.flights.signal ticket = .none) :
      Goes c job (inPhase (.waiting key ticket)) .hear (inPhase (.alone key)) c
  | found {key : String} {value : Value} (held : c.peek key = some value) :
      Goes c job (woken key) .reread (inPhase (.ended (.ok value)))
        { c with counters.coalesced := c.counters.coalesced + 1 }
  | lost {key : String} (lacking : c.peek key = none) :
      Goes c job (woken key) .reread (inPhase (.alone key)) c
  | giveUp {key : String} {ticket : Ticket} :
      Goes c job (inPhase (.waiting key ticket)) .giveUp (inPhase (.alone key)) c
  | compute {phase : Phase} {result : Except Error Value} (computes : phase.computes = true) :
      Goes c job (inPhase phase) (.compute result) (computed phase result) c
  | record {phase : Phase} {key : String} {value : Value} (named : phase.key? = some key) :
      Goes c job (computed phase (.ok value)) .record (recorded phase c.generation value)
        (c.record key job.transaction job.models)
  | insert {phase : Phase} {key : String} {generation : Nat} {value : Value}
      (named : phase.key? = some key) :
      Goes c job (recorded phase generation value) .insert (stored phase value)
        (c.insert key generation value)
  | hand {phase : Phase} {result : Except Error Value}
      (nothing : ∀ key value, phase.key? = some key → result ≠ .ok value) :
      Goes c job (computed phase result) .finish (inPhase (.ended result))
        (phase.guard?.elim c c.crash)
  | answer {phase : Phase} {value : Value} :
      Goes c job (stored phase value) .finish (inPhase (.ended (.ok value)))
        (phase.guard?.elim c c.landing)
  | drop {point : Point} (under : point.isOver = false) :
      Goes c job point .drop (inPhase .dropped) (point.guard?.elim c c.crash)

variable {c d : Cache} {job : Job} {point next : Point} {move : Move}

theorem goes_look : Goes c job (inPhase .fresh) .look (inPhase (c.look job).1) (c.look job).2 := by
  rw [look]
  cases named : c.keyOf job with
  | none => exact .skip named
  | some key =>
    simp only [get]
    cases found : c.peek key with
    | some value => exact .hit named found
    | none => exact .miss named found

theorem goes_claim {key : String} : Goes c job (inPhase (.missed key)) .claim
    (inPhase (c.claim (.missed key)).1) (c.claim (.missed key)).2 := by
  rw [claim]
  cases taken : c.flights.airborne.get? key with
  | some flight =>
    have follows : c.flights.acquire key = (.follower ⟨flight, false⟩, c.flights) := by
      rw [Flights.acquire, taken]
    rw [follows]
    exact .follow taken
  | none =>
    have leads : c.flights.acquire key = (.leader, (c.flights.acquire key).2) :=
      Prod.ext ((c.flights.acquire_leader_iff key).2 taken) rfl
    rw [leads]
    exact .lead taken

theorem goes_of_go (gone : point.go c job move = some (next, d)) :
    Goes c job point move next d := by
  unfold go at gone
  -- one case for each line of the definition, in its order
  split at gone
  case h_1 =>
    cases gone
    exact goes_look
  case h_2 =>
    cases gone
    exact goes_claim
  case h_3 =>
    split at gone <;> cases gone
    · exact .heard (by assumption)
    · exact .unheard (by assumption)
  case h_4 =>
    split at gone <;> cases gone
    · exact .found (by assumption)
    · exact .lost (by assumption)
  case h_5 =>
    cases gone
    exact .giveUp
  case h_6 =>
    split at gone <;> cases gone
    exact .compute (by assumption)
  case h_7 | h_8 =>
    obtain ⟨key, named, same⟩ := Option.map_eq_some_iff.1 gone
    cases same
    constructor
    exact named
  case h_9 =>
    split at gone <;> cases gone
    rename_i exempt
    exact .hand fun key value named ended => exempt _ _ named ended
  case h_10 =>
    cases gone
    exact .answer
  case h_11 =>
    split at gone <;> cases gone
    rename_i under
    exact .drop (Bool.eq_false_iff.2 under)
  case h_12 => cases gone

end Point

end Crowd

/-! Calls at the same time -/

/-- A cache and how far each of the calls on it has come. -/
structure Crowd (ι : Type) where
  cache : Cache
  point : ι → Crowd.Point

/-- A cache of which at most some values have been taken. -/
structure Thins (d c : Cache) : Prop where
  settings : d.settings = c.settings
  flights : d.flights = c.flights
  within : d.Within c

namespace Thins

theorem remove (c : Cache) (key : String) : (c.remove key).Thins c :=
  ⟨rfl, rfl, c.remove_within key⟩

theorem deliver (c : Cache) (notice : Notice) : (c.deliver notice).Thins c :=
  ⟨rfl, rfl, within_of_entries rfl⟩

theorem foldl_remove (keys : List String) (c : Cache) :
    (keys.foldl Cache.remove c).settings = c.settings ∧
      (keys.foldl Cache.remove c).flights = c.flights := by
  induction keys generalizing c with
  | nil => exact ⟨rfl, rfl⟩
  | cons key rest ih => exact ih (c.remove key)

theorem invalidate (c : Cache) (transaction model : String) :
    (c.invalidate transaction model).Thins c :=
  ⟨(foldl_remove _ _).1, (foldl_remove _ _).2, c.invalidate_within transaction model⟩

end Thins

namespace Crowd

inductive Act (ι : Type) where
  | call (call : ι) (move : Move)
  /-- A value leaves the cache for its age or for want of room. -/
  | evict (key : String)
  | invalidate (transaction model : String)
  | deliver (notice : Notice)

variable {ι : Type}

/-- Nobody is under way. -/
def start (c : Cache) : Crowd ι := ⟨c, fun _ => .inPhase .fresh⟩

variable [DecidableEq ι]

/-- Does what happens next, if it can happen. -/
def step (job : ι → Job) (m : Crowd ι) : Act ι → Option (Crowd ι)
  | .call i move => ((m.point i).go m.cache (job i) move).map fun next =>
    ⟨next.2, Function.update m.point i next.1⟩
  | .evict key => some { m with cache := m.cache.remove key }
  | .invalidate transaction model => some { m with cache := m.cache.invalidate transaction model }
  | .deliver notice => some { m with cache := m.cache.deliver notice }

def run (job : ι → Job) (m : Crowd ι) (acts : List (Act ι)) : Option (Crowd ι) :=
  acts.foldlM (step job) m

/-- What can happen, and where it leads. -/
inductive Takes (job : ι → Job) (m : Crowd ι) : Act ι → Crowd ι → Prop where
  | call {i : ι} {move : Move} {next : Point} {d : Cache}
      (goes : (m.point i).Goes m.cache (job i) move next d) :
      Takes job m (.call i move) ⟨d, Function.update m.point i next⟩
  | outside {act : Act ι} {d : Cache} (silent : ∀ i move, act ≠ .call i move)
      (thins : d.Thins m.cache) : Takes job m act ⟨d, m.point⟩

variable {job : ι → Job} {m m' : Crowd ι} {acts : List (Act ι)} {act : Act ι}

theorem takes_of_step (taken : m.step job act = some m') : m.Takes job act m' := by
  cases act with
  | call i move =>
    obtain ⟨next, gone, rfl⟩ := Option.map_eq_some_iff.1 taken
    exact .call (Point.goes_of_go gone)
  | evict key =>
    cases taken
    exact .outside nofun (.remove _ key)
  | invalidate transaction model =>
    cases taken
    exact .outside nofun (.invalidate _ transaction model)
  | deliver notice =>
    cases taken
    exact .outside nofun (.deliver _ notice)

/-- What holds at the start and is kept by whatever happens holds all along. -/
theorem run_induction {P : List (Act ι) → Crowd ι → Prop} (start : P [] m)
    (kept : ∀ acts m act m', P acts m → m.Takes job act m' → P (acts ++ [act]) m')
    (ran : m.run job acts = some m') : P acts m' :=
  Checks.foldlM_induction start
    (fun acts act m m' holds taken => kept acts m act m' holds (takes_of_step taken)) ran

end Crowd

end GuardedQuery.Cache
