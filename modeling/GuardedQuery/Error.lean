/-! What can go wrong with a request.
The first four causes carry a detail written for the caller; the storage and internal causes
carry one that is not. -/

namespace GuardedQuery

inductive Error where
  | validation (detail : String)
  | permissionDenied (detail : String)
  | notFound (detail : String)
  | multipleRows (detail : String)
  | unknownModel (model : String)
  | duplicateModel (model : String)
  | storage (detail : String)
  | internal (detail : String)
  /-- A row counter or the start of a window left the range of a machine word. -/
  | overflow
  deriving DecidableEq

namespace Error

def message : Error → String
  | validation detail => detail
  | permissionDenied detail => detail
  | notFound detail => detail
  | multipleRows detail => detail
  | unknownModel model => "model not registered: " ++ model
  | duplicateModel model => "model registered more than once: " ++ model
  | storage detail => "storage error: " ++ detail
  | internal detail => "internal error: " ++ detail
  | overflow => "arithmetic overflow"

def code : Error → String
  | validation _ | unknownModel _ => "validation_error"
  | permissionDenied _ => "permission_denied"
  | notFound _ => "not_found"
  | multipleRows _ => "multiple_objects_returned"
  | duplicateModel _ | storage _ | internal _ | overflow => "internal_error"

def isVisible : Error → Bool
  | duplicateModel _ | storage _ | internal _ | overflow => false
  | _ => true

end Error

end GuardedQuery
