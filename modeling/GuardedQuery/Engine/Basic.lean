import GuardedQuery.Engine.Writing
import GuardedQuery.Query.Reader

/-! The engine. It plans a request, runs it, and for a write commits or rolls back. Cached
answers are invalidated and events handed over only after a commit. -/

namespace GuardedQuery

structure Engine where
  catalog : Catalog
  rules : AccessRules
  /-- The size of a page when the query does not limit it. -/
  defaultLimit : Option Nat
  emit : Event → Except String Unit

namespace Engine

structure Outcome where
  answer : Except Error Response
  deliveries : List Delivery

/-- What a plan comes to. -/
inductive Handling where
  | reading (run : Run Response)
  | writing (script : Script Written)

def handling (e : Engine) (p : Plan) : Handling :=
  match p.query.operation with
  | .read => .reading (p.list e.defaultLimit)
  | .get => .reading (Run.ofScript p.get)
  | .first => .reading (Run.ofScript p.first)
  | .last => .reading (Run.ofScript p.last)
  | .exist => .reading (Run.ofScript p.exist)
  | .single function => .reading (p.single function)
  | .aggregate => .reading p.aggregate
  | .create => .writing p.create
  | .bulkCreate => .writing p.bulkCreate
  | .update => .writing p.update
  | .delete => .writing p.delete
  | .updateInstance => .writing p.updateInstance
  | .deleteInstance => .writing p.deleteInstance
  | .getOrCreate => .writing p.getOrCreate
  | .updateOrCreate => .writing p.updateOrCreate

/-- Drops the answers of a transaction that depend on a model, if rows of it were written. -/
def invalidated (cache : Cache) (request : Request) (model : String) (events : List Event) :
    Cache :=
  match request.transaction with
  | some transaction =>
    if events.isEmpty then cache else (cache.invalidate transaction model).settle
  | none => cache

/-- Runs a script within a transaction. -/
def transact (e : Engine) (p : Plan) (script : Script Written) (st : State) : Outcome × State :=
  match script.run st.store.begin with
  | (.ok written, store) =>
    (⟨.ok written.response, Delivery.ofEvents e.emit written.events⟩,
      ⟨store.commit, invalidated st.cache p.request p.name written.events⟩)
  | (.error fault, store) => (⟨.error fault, []⟩, { st with store := store.rollback })

def runPlan (e : Engine) (p : Plan) (st : State) : Outcome × State :=
  match e.handling p with
  | .reading run =>
    let (answer, st) := run.run st
    (⟨answer, []⟩, st)
  | .writing script => e.transact p script st

def accessOf (e : Engine) (request : Request) : Access := ⟨e.catalog, request, e.rules⟩

/-- Executes a query against a model. -/
def execute (e : Engine) (model : String) (q : Query) (request : Request) (st : State) :
    Outcome × State :=
  match (e.accessOf request).plan model q with
  | .ok p => e.runPlan p st
  | .error fault => (⟨.error fault, []⟩, st)

/-- Reads and executes a query. -/
def executeValue (e : Engine) (model : String) (ast : Value) (request : Request) (st : State) :
    Outcome × State :=
  match Query.ofValue ast with
  | .ok q => e.execute model q request st
  | .error fault => (⟨.error fault, []⟩, st)

end Engine

end GuardedQuery
