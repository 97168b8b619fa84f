import GuardedQuery.Value

/-! Who sends a request, and what it belongs to. -/

namespace GuardedQuery

structure Identity where
  /-- The primary key of the caller's own row. -/
  id : Option Value
  isAuthenticated : Bool
  isStaff : Bool

namespace Identity

def anonymous : Identity := ⟨none, false, false⟩

def user (id : Value) : Identity := ⟨some id, true, false⟩

def staff (id : Value) : Identity := ⟨some id, true, true⟩

end Identity

structure Request where
  identity : Identity
  /-- Answers are cached within a transaction only. -/
  transaction : Option String
  /-- Named by the notices of what the request changed. -/
  operationId : Option String

def Request.anonymous : Request := ⟨.anonymous, none, none⟩

end GuardedQuery
