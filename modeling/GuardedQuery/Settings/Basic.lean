import GuardedQuery.Access
import GuardedQuery.Cache.Basic
import GuardedQuery.Text.Case
import GuardedQuery.Value.Shape

/-! Settings of the engine, with their defaults, their limits and their form as values. -/

namespace GuardedQuery

structure ExecutionSettings where
  /-- The name of what happens to unknown fields. -/
  unknownFields : String
  defaultLimit : Option Nat
  maxDepth : Nat
  deriving DecidableEq

structure LogOptions where
  level : String
  json : Bool
  deriving DecidableEq

structure ErrorOptions where
  detailed : Bool
  deriving DecidableEq

structure Settings where
  execution : ExecutionSettings
  cache : CacheSettings
  log : LogOptions
  errors : ErrorOptions
  deriving DecidableEq

namespace Settings

def default : Settings := ⟨⟨"error", none, 5⟩, .default, ⟨"info", false⟩, ⟨false⟩⟩

/-! Limits -/

inductive Fault where
  | unknownFields (text : String)
  | depth (found : Nat)
  | noCapacity
  | level (found : String)
  deriving DecidableEq

def depthLimit : Nat := 32

def levels : List String := ["trace", "debug", "info", "warn", "error"]

namespace Fault

def detail : Fault → String
  | unknownFields text => "engine.unknown_field_policy: " ++ UnknownFields.faultText text
  | depth found =>
    "engine.max_depth must be between 1 and " ++ toString depthLimit ++ ", got: " ++ toString found
  | noCapacity => "cache.max_capacity must be greater than 0"
  | level found =>
    "logging.level must be one of: [" ++ ", ".intercalate (levels.map Text.quote) ++ "], got: " ++
      found

def message (fault : Fault) : String := "invalid configuration: " ++ fault.detail

end Fault

def unknownFields (s : Settings) : Except Fault UnknownFields :=
  match UnknownFields.read s.execution.unknownFields with
  | .ok rule => .ok rule
  | .error _ => .error (.unknownFields s.execution.unknownFields)

/-- Checks one limit after another. -/
def validate (s : Settings) : Except Fault Unit := do
  let _ ← s.unknownFields
  if s.execution.maxDepth = 0 ∨ depthLimit < s.execution.maxDepth then
    throw (.depth s.execution.maxDepth)
  if s.cache.capacity = 0 then throw .noCapacity
  if !levels.contains (Text.lowercase s.log.level) then throw (.level s.log.level)

def rules (s : Settings) : Except Fault AccessRules :=
  return ⟨← s.unknownFields, s.execution.maxDepth⟩

/-! Settings as values -/

def setExecution (s : ExecutionSettings) (key : String) (v : Value) :
    Except Misfit ExecutionSettings :=
  match key with
  | "unknown_field_policy" => return { s with unknownFields := ← Shape.string v }
  | "default_limit" => return { s with defaultLimit := ← Shape.optional (Shape.unsigned 64) v }
  | "max_depth" => return { s with maxDepth := ← Shape.unsigned 32 v }
  | _ => return s

def setCache (s : CacheSettings) (key : String) (v : Value) : Except Misfit CacheSettings :=
  match key with
  | "enabled" => return { s with enabled := ← Shape.bool v }
  | "max_capacity" => return { s with capacity := ← Shape.unsigned 64 v }
  | "result_ttl_secs" => return { s with lifetime := ← Shape.unsigned 64 v }
  | "query_timeout_ms" => return { s with queryTimeout := ← Shape.unsigned 64 v }
  | _ => return s

def setLog (s : LogOptions) (key : String) (v : Value) : Except Misfit LogOptions :=
  match key with
  | "level" => return { s with level := ← Shape.string v }
  | "json" => return { s with json := ← Shape.bool v }
  | _ => return s

def setErrors (s : ErrorOptions) (key : String) (v : Value) : Except Misfit ErrorOptions :=
  match key with
  | "detailed" => return { s with detailed := ← Shape.bool v }
  | _ => return s

def executionOf : Value → Except Misfit ExecutionSettings :=
  Shape.record "ExecutionConfig" ["unknown_field_policy", "default_limit", "max_depth"]
    setExecution default.execution

def cacheOf : Value → Except Misfit CacheSettings :=
  Shape.record "CacheConfig" ["enabled", "max_capacity", "result_ttl_secs", "query_timeout_ms"]
    setCache default.cache

def logOf : Value → Except Misfit LogOptions :=
  Shape.record "LoggingConfig" ["level", "json"] setLog default.log

def errorsOf : Value → Except Misfit ErrorOptions :=
  Shape.record "ErrorsConfig" ["detailed"] setErrors default.errors

def setSection (s : Settings) (key : String) (v : Value) : Except Misfit Settings :=
  match key with
  | "engine" => return { s with execution := ← executionOf v }
  | "cache" => return { s with cache := ← cacheOf v }
  | "logging" => return { s with log := ← logOf v }
  | "errors" => return { s with errors := ← errorsOf v }
  | _ => return s

/-- Reads settings; what is missing has its default. -/
def ofValue : Value → Except Misfit Settings :=
  Shape.record "EngineConfig" ["engine", "cache", "logging", "errors"] setSection default

def optionalNat : Option Nat → Value
  | some n => .int n
  | none => .null

def toValue (s : Settings) : Value :=
  .obj [
    ("cache", .obj [("enabled", .bool s.cache.enabled), ("max_capacity", .int s.cache.capacity),
      ("query_timeout_ms", .int s.cache.queryTimeout),
      ("result_ttl_secs", .int s.cache.lifetime)]),
    ("engine", .obj [("default_limit", optionalNat s.execution.defaultLimit),
      ("max_depth", .int s.execution.maxDepth),
      ("unknown_field_policy", .str s.execution.unknownFields)]),
    ("errors", .obj [("detailed", .bool s.errors.detailed)]),
    ("logging", .obj [("json", .bool s.log.json), ("level", .str s.log.level)])]

end Settings

end GuardedQuery
