import GuardedQuery.Error

/-! Failures of the row store.
Filters and inputs that the store cannot interpret came from the caller; the rest did not. -/

namespace GuardedQuery.Store

inductive Error where
  | unknownModel (model : String)
  | unknownRow (model key : String)
  | duplicateKey (model key : String)
  | invalidFilter (detail : String)
  | invalidInput (detail : String)
  /-- No integer is left for a primary key. -/
  | keysExhausted (model : String)
  | failure (detail : String)
  deriving DecidableEq

namespace Error

def message : Error → String
  | unknownModel model => "model not found: " ++ model
  | unknownRow model key => "row not found: " ++ model ++ " pk=" ++ key
  | duplicateKey model key => "duplicate primary key: " ++ model ++ " pk=" ++ key
  | invalidFilter detail => "invalid filter: " ++ detail
  | invalidInput detail => "invalid input: " ++ detail
  | keysExhausted model => "primary keys exhausted: " ++ model
  | failure detail => "internal storage error: " ++ detail

def toError : Error → GuardedQuery.Error
  | invalidFilter detail => .validation detail
  | invalidInput detail => .validation detail
  | keysExhausted _ => .overflow
  | other => .storage other.message

end Error

end GuardedQuery.Store
