import GuardedQuery.Dict

/-! Flights: keys whose answers are being computed. The first caller of a key leads its flight,
later callers follow it until the flight ends, with a signal or without one. Flights are
numbered, so a follower keeps watching its own even when the key takes off again. -/

namespace GuardedQuery.Cache

structure Flights where
  /-- The flight that each key is on. -/
  airborne : Dict Nat
  /-- The ended flights that gave their signal. -/
  landed : List Nat
  started : Nat

/-- A follower's view of a flight; the signal can be taken once. -/
structure Ticket where
  flight : Nat
  taken : Bool

inductive Slot where
  | leader
  | follower (ticket : Ticket)

inductive Signal where
  | pending
  | given
  | none
  deriving DecidableEq

namespace Flights

def empty : Flights := ⟨.empty, [], 0⟩

def size (f : Flights) : Nat := f.airborne.size

/-- Takes off with a key, or joins the flight that it is on. -/
def acquire (f : Flights) (key : String) : Slot × Flights :=
  match f.airborne.get? key with
  | some flight => (.follower ⟨flight, false⟩, f)
  | none =>
    (.leader, { f with airborne := f.airborne.insert key f.started, started := f.started + 1 })

/-- Ends the flight of a key without a signal. -/
def abandon (f : Flights) (key : String) : Flights := { f with airborne := f.airborne.erase key }

/-- Ends the flight of a key and signals its followers. -/
def release (f : Flights) (key : String) : Flights :=
  match f.airborne.get? key with
  | some flight => { f.abandon key with landed := flight :: f.landed }
  | none => f

/-- What a follower sees. Once the signal is taken or the flight has ended without one, there is
none to come. -/
def signal (f : Flights) (ticket : Ticket) : Signal :=
  if ticket.taken then .none
  else if f.landed.contains ticket.flight then .given
  else if f.airborne.values.contains ticket.flight then .pending
  else .none

/-- Looks for the signal and takes it if it is there. -/
def poll (f : Flights) (ticket : Ticket) : Signal × Ticket :=
  match f.signal ticket with
  | .given => (.given, { ticket with taken := true })
  | other => (other, ticket)

theorem acquire_leader_iff (f : Flights) (key : String) :
    (f.acquire key).1 = .leader ↔ f.airborne.get? key = none := by
  rw [acquire]
  split <;> simp_all

theorem get?_abandon (f : Flights) (key : String) : (f.abandon key).airborne.get? key = none := by
  simp [abandon]

theorem get?_release (f : Flights) (key : String) : (f.release key).airborne.get? key = none := by
  rw [release]
  split
  · exact f.get?_abandon key
  · assumption

end Flights

end GuardedQuery.Cache
