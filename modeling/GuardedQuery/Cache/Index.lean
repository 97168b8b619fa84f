import GuardedQuery.Dict
import GuardedQuery.NameSet

/-! Which cached answers depend on which models. Every key is recorded with the generation of
the value it was stored with and linked under its transaction and each model that the value
depends on. A notice about an older generation leaves the record of a newer one alone. -/

namespace GuardedQuery.Cache

/-- A model as one transaction sees it. -/
structure Scope where
  transaction : String
  model : String
  deriving DecidableEq

structure Record where
  generation : Nat
  scopes : List Scope

structure Link where
  scope : Scope
  key : String
  deriving DecidableEq

structure Index where
  records : Dict Record
  /-- Holds each link once. -/
  links : List Link

namespace Index

def empty : Index := ⟨.empty, []⟩

/-- The number of scopes that some key is linked under. -/
def scopeCount (i : Index) : Nat := (i.links.map Link.scope).eraseDups.length

/-- The keys that are linked under a scope. -/
def keysOf (i : Index) (scope : Scope) : List String :=
  (i.links.filter (·.scope = scope)).map Link.key

def addLink (links : List Link) (link : Link) : List Link :=
  if link ∈ links then links else links ++ [link]

def link (i : Index) (key : String) (scopes : List Scope) : Index :=
  { i with links := scopes.foldl (fun links scope => addLink links ⟨scope, key⟩) i.links }

def unlink (i : Index) (key : String) (scopes : List Scope) : Index :=
  { i with links := i.links.filter fun link => !(link.key == key && scopes.contains link.scope) }

/-- Removes a key with all of its links. -/
def forget (i : Index) (key : String) : Index :=
  match i.records.get? key with
  | some record => { i with records := i.records.erase key }.unlink key record.scopes
  | none => i

/-- Removes a key if its record is of the given generation. -/
def forgetGeneration (i : Index) (key : String) (generation : Nat) : Index :=
  match i.records.get? key with
  | some record => if record.generation = generation then i.forget key else i
  | none => i

/-- Records a key and links it under the models, in place of what was recorded before. -/
def record (i : Index) (key : String) (generation : Nat) (transaction : String)
    (models : NameSet) : Index :=
  let scopes := models.toList.map fun model => ⟨transaction, model⟩
  { i.forget key with
    records := (i.forget key).records.insert key ⟨generation, scopes⟩ }.link key scopes

/-- Removes all keys linked under a scope; they are returned. -/
def take (i : Index) (scope : Scope) : List String × Index :=
  let keys := i.keysOf scope
  (keys, keys.foldl forget { i with links := i.links.filter (·.scope != scope) })

end Index

end GuardedQuery.Cache
