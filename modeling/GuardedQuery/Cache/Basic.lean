import GuardedQuery.Cache.Flights
import GuardedQuery.Cache.Index
import GuardedQuery.Cache.Key

/-! The cache of answers. Every stored value has a generation of its own, which the index
records along with the models that the value depends on. A value that leaves the cache, because
it was replaced, invalidated or evicted, is followed by a notice that clears its record; notices
can be delivered late and in any order. -/

namespace GuardedQuery

structure CacheSettings where
  enabled : Bool
  /-- The number of answers to keep. -/
  capacity : Nat
  /-- Seconds until an answer expires. -/
  lifetime : Nat
  /-- Milliseconds that a query is expected to take at most. -/
  queryTimeout : Nat
  deriving DecidableEq

namespace CacheSettings

def default : CacheSettings := ⟨true, 10000, 3600, 1000⟩

/-- Milliseconds that a follower waits: a second longer than a query should take. -/
def lockWait (s : CacheSettings) : Nat := s.queryTimeout + 1000

/-- A thousand years, in seconds. No cache can be made to keep answers for longer. -/
def lifetimeLimit : Nat := 1000 * 365 * 24 * 3600

end CacheSettings

namespace Cache

structure Entry where
  generation : Nat
  value : Value

/-- Tells that the value of a generation has left the cache. -/
structure Notice where
  key : String
  generation : Nat
  deriving DecidableEq

structure Counters where
  hits : Nat
  misses : Nat
  /-- Requests that the cache had no part in. -/
  skips : Nat
  /-- Followers that were served by the answer of their leader. -/
  coalesced : Nat
  deriving DecidableEq

namespace Counters

def zero : Counters := ⟨0, 0, 0, 0⟩

/-- The share of lookups that were hits; zero before the first one. -/
def hitRatio (c : Counters) : Float :=
  if c.hits + c.misses = 0 then 0 else Float.ofNat c.hits / Float.ofNat (c.hits + c.misses)

end Counters

end Cache

structure Cache where
  settings : CacheSettings
  entries : Dict Cache.Entry
  index : Cache.Index
  /-- The generation of the next value. -/
  generation : Nat
  flights : Cache.Flights
  counters : Cache.Counters
  /-- Notices that have not been delivered yet, the oldest first. -/
  notices : List Cache.Notice

namespace Cache

def ofSettings (settings : CacheSettings) : Cache :=
  ⟨settings, .empty, .empty, 0, .empty, .zero, []⟩

def peek (c : Cache) (key : String) : Option Value := (c.entries.get? key).map Entry.value

/-- Looks a key up and counts the lookup. -/
def get (c : Cache) (key : String) : Option Value × Cache :=
  match c.peek key with
  | some value => (some value, { c with counters.hits := c.counters.hits + 1 })
  | none => (none, { c with counters.misses := c.counters.misses + 1 })

/-- The notices due when the present value of a key leaves. -/
def noticesOf (c : Cache) (key : String) : List Notice :=
  (c.entries.get? key).toList.map fun entry => ⟨key, entry.generation⟩

/-- Takes a value out of the cache, for whatever reason. -/
def remove (c : Cache) (key : String) : Cache :=
  { c with entries := c.entries.erase key, notices := c.notices ++ c.noticesOf key }

/-- Stores a value that depends on models as seen by a transaction. -/
def put (c : Cache) (key transaction : String) (models : NameSet) (value : Value) : Cache :=
  { c with
    entries := c.entries.insert key ⟨c.generation, value⟩
    index := c.index.record key c.generation transaction models
    generation := c.generation + 1
    notices := c.notices ++ c.noticesOf key }

/-- Removes all values of a transaction that depend on a model. -/
def invalidate (c : Cache) (transaction model : String) : Cache :=
  let (keys, index) := c.index.take ⟨transaction, model⟩
  keys.foldl remove { c with index }

def deliver (c : Cache) (notice : Notice) : Cache :=
  { c with
    index := c.index.forgetGeneration notice.key notice.generation
    notices := c.notices.erase notice }

/-- Without a lifetime, values expire as soon as they are stored. -/
def expire (c : Cache) : Cache :=
  if c.settings.lifetime = 0 then c.entries.names.foldl remove c else c

/-- Removes what has expired and delivers all notices. -/
def settle (c : Cache) : Cache := c.expire.notices.foldl deliver c.expire

theorem get_fst (c : Cache) (key : String) : (c.get key).1 = c.peek key := by
  rw [get]
  split <;> simp_all

@[simp] theorem peek_put_self (c : Cache) (key transaction : String) (models : NameSet)
    (value : Value) : (c.put key transaction models value).peek key = some value := by
  simp [put, peek]

@[simp] theorem peek_remove_self (c : Cache) (key : String) : (c.remove key).peek key = none := by
  simp [remove, peek]

end Cache

end GuardedQuery
