import GuardedQuery.Settings.Basic
import GuardedQuery.Text.Numeral

/-! What is logged: the level of the engine's own parts, the level of all others, and the form
of the lines. -/

namespace GuardedQuery

inductive LogLevel where
  | error
  | warn
  | info
  | debug
  | trace
  deriving DecidableEq

namespace LogLevel

def name : LogLevel → String
  | error => "ERROR"
  | warn => "WARN"
  | info => "INFO"
  | debug => "DEBUG"
  | trace => "TRACE"

def lowerName : LogLevel → String
  | error => "error"
  | warn => "warn"
  | info => "info"
  | debug => "debug"
  | trace => "trace"

def ofNumber? : Nat → Option LogLevel
  | 1 => some error
  | 2 => some warn
  | 3 => some info
  | 4 => some debug
  | 5 => some trace
  | _ => none

def ofName? : String → Option LogLevel
  | "error" => some error
  | "warn" => some warn
  | "info" => some info
  | "debug" => some debug
  | "trace" => some trace
  | _ => none

/-- Reads a number from one to five, or a name in any case. -/
def read? (text : String) : Option LogLevel :=
  ((Text.natural? text).bind ofNumber?).or
    (ofName? (String.ofList (text.toList.map Char.toLower)))

theorem ofName?_lowerName (level : LogLevel) : ofName? level.lowerName = some level := by
  cases level <;> rfl

end LogLevel

inductive LogFormat where
  | pretty
  | json
  deriving DecidableEq

def LogFormat.name : LogFormat → String
  | pretty => "pretty"
  | json => "json"

structure LogSettings where
  format : LogFormat
  engineLevel : LogLevel
  dependencyLevel : LogLevel
  /-- Whether entering and leaving a span is logged as well. -/
  spanEvents : Bool
  deriving DecidableEq

namespace LogSettings

def default : LogSettings := ⟨.pretty, .info, .warn, false⟩

def formatOf (json : Bool) : LogFormat := if json then .json else .pretty

/-- The settings that the log options ask for, unless there is no such level. -/
def ofOptions (options : LogOptions) : Option LogSettings :=
  (LogLevel.read? options.level).map fun level =>
    { default with format := formatOf options.json, engineLevel := level }

/-- The parts of the engine that write log lines. -/
def targets : List String :=
  ["scopeql_domain", "scopeql_storage", "scopeql_server", "scopeql_api"]

/-- The filter: the level of all other parts, then that of each own one. -/
def directives (s : LogSettings) : String :=
  ",".intercalate (s.dependencyLevel.lowerName ::
    targets.map fun target => target ++ "=" ++ s.engineLevel.lowerName)

end LogSettings

end GuardedQuery
