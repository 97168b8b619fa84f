import GuardedQuery.Value

/-! Answers to requests: the data, its shape, and flags about what was done. -/

namespace GuardedQuery

inductive ResponseKind where
  /-- One row, or null. -/
  | row
  /-- A list of rows. -/
  | rows
  /-- A number, or several by name. -/
  | number
  | truth
  deriving DecidableEq

def ResponseKind.name : ResponseKind → String
  | .row => "instance"
  | .rows => "queryset"
  | .number => "number"
  | .truth => "boolean"

structure Response where
  data : Value
  kind : ResponseKind
  flags : Row

namespace Response

def ofData (data : Value) (kind : ResponseKind) : Response := ⟨data, kind, []⟩

def withFlag (r : Response) (name : String) (value : Value) : Response :=
  { r with flags := r.flags.insert name value }

/-- The flags together with the name of the kind. -/
def metadata (r : Response) : Row := r.flags.insert "response_type" (.str r.kind.name)

end Response

end GuardedQuery
