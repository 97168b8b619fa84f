import GuardedQuery.Cache.Basic
import GuardedQuery.Error

/-! Calls for a cached answer, step by step. A call looks its key up, and on a miss either leads
the computation of the answer or waits for the one that does. What it computes it stores; a
failure is its own and is never stored. -/

namespace GuardedQuery.Cache

/-- What a call wants: an answer under a key, or without one if it is not to be cached. -/
structure Job where
  key : Option String
  transaction : String
  models : NameSet

inductive Phase where
  | fresh
  /-- Has no part in caching and computes. -/
  | apart
  /-- Has not found its key. -/
  | missed (key : String)
  | leading (key : String)
  | waiting (key : String) (ticket : Ticket)
  /-- Computes although another call leads or has led. -/
  | alone (key : String)
  | ended (outcome : Except Error Value)
  /-- Given up by its caller. -/
  | dropped

namespace Phase

/-- Whether the next step of the call is to compute the answer. -/
def computes : Phase → Bool
  | apart | leading _ | alone _ => true
  | _ => false

def outcome? : Phase → Option (Except Error Value)
  | ended outcome => some outcome
  | _ => none

end Phase

def skip (c : Cache) : Cache := { c with counters.skips := c.counters.skips + 1 }

/-- The key under which a job is cached, if it is. -/
def keyOf (c : Cache) (job : Job) : Option String :=
  if c.settings.enabled then job.key else none

/-- The first step: the lookup. -/
def look (c : Cache) (job : Job) : Phase × Cache :=
  match c.keyOf job with
  | none => (.apart, c.skip)
  | some key =>
    match c.get key with
    | (some value, c) => (.ended (.ok value), c)
    | (none, c) => (.missed key, c)

/-- After a miss: leads or follows. -/
def claim (c : Cache) : Phase → Phase × Cache
  | .missed key =>
    match c.flights.acquire key with
    | (.leader, flights) => (.leading key, { c with flights })
    | (.follower ticket, flights) => (.waiting key ticket, { c with flights })
  | phase => (phase, c)

/-- A follower looks for its leader's signal and then for the answer. -/
def wake (c : Cache) : Phase → Phase × Cache
  | .waiting key ticket =>
    match c.flights.signal ticket with
    | .pending => (.waiting key ticket, c)
    | .none => (.alone key, c)
    | .given =>
      match c.peek key with
      | some value =>
        (.ended (.ok value), { c with counters.coalesced := c.counters.coalesced + 1 })
      | none => (.alone key, c)
  | phase => (phase, c)

/-- A follower does not wait any longer. -/
def giveUpWaiting : Phase → Phase
  | .waiting key _ => .alone key
  | phase => phase

def landing (c : Cache) (key : String) : Cache := { c with flights := c.flights.release key }

def crash (c : Cache) (key : String) : Cache := { c with flights := c.flights.abandon key }

/-- The computation of a call has ended. -/
def finish (c : Cache) (job : Job) (result : Except Error Value) : Phase → Phase × Cache
  | .apart => (.ended result, c)
  | .alone key =>
    match result with
    | .ok value => (.ended result, c.put key job.transaction job.models value)
    | .error _ => (.ended result, c)
  | .leading key =>
    match result with
    | .ok value => (.ended result, (c.put key job.transaction job.models value).landing key)
    | .error _ => (.ended result, c.crash key)
  | phase => (phase, c)

/-- The caller gives up the call. -/
def drop (c : Cache) : Phase → Phase × Cache
  | .ended outcome => (.ended outcome, c)
  | .leading key => (.dropped, c.crash key)
  | _ => (.dropped, c)

/-- The steps before anything is computed. -/
def start (c : Cache) (job : Job) : Phase × Cache :=
  let (phase, c) := c.look job
  c.claim phase

/-! A call by itself -/

/-- Runs a call while nothing else happens, so that a wait can only end by its time. The
computation may change a state of its own. -/
def run {σ : Type} (c : Cache) (job : Job) (compute : σ → Except Error Value × σ) (s : σ) :
    Except Error Value × Cache × σ :=
  match c.start job with
  | (.ended outcome, c) => (outcome, c, s)
  | (phase, c) =>
    let (result, s) := compute s
    (result, (c.finish job result (giveUpWaiting phase)).2, s)

/-! Calls of one job at once -/

/-- One of several calls: its phase, and what it computes if it has to. -/
structure Caller where
  phase : Phase
  result : Except Error Value
  computed : Bool

/-- Takes the callers through a step one after another. -/
def eachCaller (step : Cache → Caller → Caller × Cache) : Cache → List Caller → List Caller × Cache
  | c, [] => ([], c)
  | c, caller :: rest =>
    let (caller, c) := step c caller
    let (rest, c) := eachCaller step c rest
    (caller :: rest, c)

def startCaller (job : Job) (c : Cache) (caller : Caller) : Caller × Cache :=
  let (phase, c) := c.start job
  ({ caller with phase }, c)

/-- Computes if that is the caller's next step. -/
def finishCaller (job : Job) (c : Cache) (caller : Caller) : Caller × Cache :=
  if caller.phase.computes then
    let (phase, c) := c.finish job caller.result caller.phase
    ({ caller with phase, computed := true }, c)
  else (caller, c)

/-- Ends the wait of a follower, by its leader's signal or by its time. -/
def wakeCaller (c : Cache) (caller : Caller) : Caller × Cache :=
  let (phase, c) := c.wake caller.phase
  ({ caller with phase := giveUpWaiting phase }, c)

/-- Runs several calls of one job that start together: all look up and claim, then the
computations that have begun end, then the followers wake, and last those end that compute on
their own. -/
def together (c : Cache) (job : Job) (results : List (Except Error Value)) :
    List Caller × Cache :=
  let (callers, c) := eachCaller (startCaller job) c (results.map (⟨.fresh, ·, false⟩))
  let (callers, c) := eachCaller (finishCaller job) c callers
  let (callers, c) := eachCaller wakeCaller c callers
  eachCaller (finishCaller job) c callers

end GuardedQuery.Cache
