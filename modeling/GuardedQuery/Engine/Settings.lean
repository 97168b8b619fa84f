import GuardedQuery.Engine.Basic
import GuardedQuery.Settings.Basic

/-! Engines made from settings. -/

namespace GuardedQuery.Engine

/-- Why no engine can be made from settings. -/
inductive SetupFault where
  | settings (fault : Settings.Fault)
  /-- The cache would have to keep answers for too long. -/
  | lifetime (seconds : Nat)
  deriving DecidableEq

/-- An engine for the models of a catalog, if the settings are within their limits. -/
def ofSettings (catalog : Catalog) (settings : Settings) (emit : Event → Except String Unit) :
    Except SetupFault Engine := do
  settings.validate.mapError .settings
  let rules ← settings.rules.mapError .settings
  if CacheSettings.lifetimeLimit < settings.cache.lifetime then
    throw (.lifetime settings.cache.lifetime)
  return ⟨catalog, rules, settings.execution.defaultLimit, emit⟩

end GuardedQuery.Engine
