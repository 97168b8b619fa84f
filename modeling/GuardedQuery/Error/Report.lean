import GuardedQuery.Error

/-! The report of an error to a remote caller: a status, a code and a detail.
Details that were not written for the caller are shown only on request. -/

namespace GuardedQuery

inductive Report where
  | invalidInput (code detail : String)
  | forbidden (detail : String)
  | missing (detail : String)
  | failure (detail : String)
  deriving DecidableEq

namespace Report

def status : Report → Nat
  | invalidInput _ _ => 400
  | forbidden _ => 403
  | missing _ => 404
  | failure _ => 500

def code : Report → String
  | invalidInput code _ => code
  | forbidden _ => "permission_denied"
  | missing _ => "not_found"
  | failure _ => "internal_error"

def detail : Report → String
  | invalidInput _ detail => detail
  | forbidden detail => detail
  | missing detail => detail
  | failure detail => detail

end Report

/-- With `detailed` every message is shown; without it hidden ones become general phrases. -/
def Error.report (e : Error) (detailed : Bool) : Report :=
  match e with
  | .validation detail => .invalidInput e.code detail
  | .multipleRows detail => .invalidInput e.code detail
  | .unknownModel _ => .invalidInput e.code (if detailed then e.message else "model not registered")
  | .permissionDenied detail => .forbidden detail
  | .notFound detail => .missing detail
  | .duplicateModel _ | .storage _ | .internal _ | .overflow =>
    .failure (if detailed then e.message else "internal error")

end GuardedQuery
