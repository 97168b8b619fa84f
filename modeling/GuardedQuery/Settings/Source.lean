import GuardedQuery.Path
import GuardedQuery.Settings.Basic
import GuardedQuery.Settings.Document

/-! Loading settings from a document and from environment variables, which win over it. Scalars
are read loosely: a number, a truth value or a text serves for any of them if it can. -/

namespace GuardedQuery.Settings

inductive LoadError where
  | unreadable
  /-- An entry has a name that is neither a text nor a whole number. -/
  | unnamed
  | noDocument (path : String)
  | invalid (fault : Fault)
  deriving DecidableEq

def LoadError.message : LoadError → String
  | unreadable | unnamed => "failed to load configuration"
  | noDocument path => "configuration file not found: " ++ path
  | invalid fault => fault.message

/-! Loose scalars -/

namespace Loose

def bool? : Value → Option Bool
  | .bool b => some b
  | .num (.int i) => some (i != 0)
  | .num (.float x) => some (x != 0)
  | .str s =>
    match Text.lowercase s with
    | "1" | "true" | "on" | "yes" => some true
    | "0" | "false" | "off" | "no" => some false
    | _ => none
  | _ => none

def word? (n : Nat) : Option Nat := if n < 0x10000000000000000 then some n else none

/-- A word; a fraction is rounded and kept within the range of words. -/
def unsigned? : Value → Option Nat
  | .bool b => some (if b then 1 else 0)
  | .num (.int i) => if 0 ≤ i then word? i.toNat else none
  | .num (.float x) => some x.round.toUInt64.toNat
  | .str s =>
    match Text.lowercase s with
    | "true" | "on" | "yes" => some 1
    | "false" | "off" | "no" => some 0
    | _ => (Text.natural? s).bind word?
  | _ => none

def half? (v : Value) : Option Nat := (unsigned? v).filter (· < 0x100000000)

/-- Fractions are written in positional notation. -/
def fractionStyle : FractionStyle := ⟨-400, 400, false⟩

def fractionText (x : Float) : String :=
  if x.isNaN then "NaN"
  else if x.isInf then (if x < 0 then "-inf" else "inf")
  else Number.styledText fractionStyle x

def string? : Value → Option String
  | .str s => some s
  | .bool b => some (if b then "true" else "false")
  | .num (.int i) => some (toString i)
  | .num (.float x) => some (fractionText x)
  | _ => none

def optional? {α : Type} (shape : Value → Option α) : Value → Option (Option α)
  | .null => some none
  | v => some <$> shape v

/-- An entry, which has a default if it is missing. -/
def entry {α : Type} (shape : Value → Option α) (start : α) (row : Row) (name : String) :
    Option α :=
  match row.get? name with
  | some v => shape v
  | none => some start

/-- A section, which is empty if it is missing. -/
def part (row : Row) (name : String) : Option Row := entry Value.obj? [] row name

end Loose

def ofTree (tree : Row) : Option Settings := do
  let start := default
  let execution ← Loose.part tree "engine"
  let cache ← Loose.part tree "cache"
  let log ← Loose.part tree "logging"
  let errors ← Loose.part tree "errors"
  return {
    execution := {
      unknownFields := ← Loose.entry Loose.string? start.execution.unknownFields execution
        "unknown_field_policy"
      defaultLimit := ← Loose.entry (Loose.optional? Loose.unsigned?) start.execution.defaultLimit
        execution "default_limit"
      maxDepth := ← Loose.entry Loose.half? start.execution.maxDepth execution "max_depth" }
    cache := {
      enabled := ← Loose.entry Loose.bool? start.cache.enabled cache "enabled"
      capacity := ← Loose.entry Loose.unsigned? start.cache.capacity cache "max_capacity"
      lifetime := ← Loose.entry Loose.unsigned? start.cache.lifetime cache "result_ttl_secs"
      queryTimeout := ← Loose.entry Loose.unsigned? start.cache.queryTimeout cache
        "query_timeout_ms" }
    log := {
      level := ← Loose.entry Loose.string? start.log.level log "level"
      json := ← Loose.entry Loose.bool? start.log.json log "json" }
    errors := { detailed := ← Loose.entry Loose.bool? start.errors.detailed errors "detailed" } }

/-! Trees -/

def sectionOf (tree : Row) (name : String) : Row := ((tree.get? name).bind Value.obj?).getD []

/-- Names of entries are kept in lower case. -/
def lowerNames (row : Row) : Row :=
  Entries.ofList (row.map fun (name, value) => (Text.lowercase name, value))

/-- Sets the value of a name; a section is laid over what the name holds already. -/
def setName (tree : Row) (name : String) (value : Value) : Row :=
  let name := Text.lowercase name
  tree.insert name (match value with
    | .obj row => .obj ((lowerNames row).foldl (fun row entry => Entries.insert entry.1 entry.2 row)
        (sectionOf tree name))
    | value => value)

/-- Sets the value at the end of a path of names. -/
def setPath (value : Value) : List String → Row → Row
  | [], tree => tree
  | [name], tree => setName tree name value
  | part :: rest, tree => tree.insert part (.obj (setPath value rest (sectionOf tree part)))

def isPathChar (c : Char) : Bool := c.isAlphanum || c = ' ' || c = '_' || c = '-'

/-- The names that a name stands for: points between plain names make a path of it. -/
def pathOf (name : String) : List String :=
  let parts := name.splitOn "."
  if parts.all fun part => !part.isEmpty && part.toList.all isPathChar then parts else [name]

/-- The entries of a document as a tree. -/
def treeOf (row : Row) : Row :=
  row.foldl (fun tree entry => setPath entry.2 (pathOf entry.1) tree) []

/-! The environment -/

def variableStart : List Char := "scopeql_".toList

/-- The section and the entry that a variable is for, if it is for any. -/
def settingOf? (name : String) : Option (String × String) :=
  let cs := (Text.lowercase name).toList
  if variableStart.isPrefixOf cs then
    match Path.segments (String.ofList (cs.drop variableStart.length)) with
    | [part, entry] => some (part, entry)
    | _ => none
  else none

/-- Lays a named text over the entries of a tree. -/
def override (tree : Row) (named : String × String) : Row :=
  match settingOf? named.1 with
  | some (part, entry) => setPath (.str named.2) [part, entry] tree
  | none => tree

/-! Loading -/

/-- The settings of a tree with the variables laid over it. -/
def ofSources (tree : Row) (environment : List (String × String)) : Except LoadError Settings :=
  match ofTree (environment.foldl override tree) with
  | none => .error .unreadable
  | some settings =>
    match settings.validate with
    | .ok _ => .ok settings
    | .error fault => .error (.invalid fault)

def ofVariables (environment : List (String × String)) : Except LoadError Settings :=
  ofSources [] environment

def ofDocument (text : String) (environment : List (String × String)) : Except LoadError Settings :=
  match Document.read text with
  | .error .malformed => .error .unreadable
  | .error .unnamed => .error .unnamed
  | .ok row => ofSources (treeOf row) environment

end GuardedQuery.Settings
