import TaggedCache.Registry
import TaggedCache.Settings.Bins

/-!
# Checking settings

What is given on the command line takes the place of what was chosen before. Then everything is
checked: limits and capacities that would keep nothing, names of bins, and bins that are asked for and
are not there. The first thing found counts.
-/

namespace TaggedCache
namespace Settings

/-- What is given on the command line. -/
structure Overrides where
  level : Option String := none
  json : Option Bool := none
  /-- How many milliseconds a broadcast waits for a bin. -/
  timeoutMillis : Option Nat := none
  databaseUrl : Option String := none
deriving DecidableEq, Repr, Inhabited

/-- The settings with what is given in the place of what was chosen. -/
def Draft.override (d : Draft) (o : Overrides) : Draft where
  level := o.level <|> d.level
  json := o.json <|> d.json
  cache := { d.cache with
    timeoutMillis := o.timeoutMillis.getD d.cache.timeoutMillis
    database := { d.cache.database with url := o.databaseUrl <|> d.cache.database.url } }

/-- Why settings are not usable. -/
inductive Fault where
  | unreadable
  | invalid (key reason : String)
deriving DecidableEq, Repr

def Fault.message : Fault → String
  | .unreadable => "failed to build configuration"
  | .invalid key reason => "invalid configuration for `" ++ key ++ "`: " ++ reason

/-- Fails unless the number is positive. -/
def checkPositive (key : String) (n : Nat) : Except Fault Unit :=
  if n = 0 then .error (.invalid key "must be greater than zero") else .ok ()

def missingReason (bin : String) : String := "bin `" ++ bin ++ "` is not configured"

def checkBin (name : String) (s : BinSettings) : Except Fault Unit := do
  if !Registry.isValidName name then .error (.invalid (Registry.configKey name) Registry.nameReason)
  if s.kind = .memory then checkPositive (Registry.configKey name ++ ".capacity") s.capacity

/-- An address without white space at its ends. A blank one is none. -/
def trimUrl (url : Option String) : Option String :=
  (url.map fun s => String.ofList (Text.trim s.toList)).filter (· ≠ "")

def checkCache (s : CacheSettings) : Except Fault CacheSettings := do
  checkPositive "cache.invalidation_timeout_ms" s.timeoutMillis
  checkPositive "cache.failure_log_limit" s.failureLogLimit
  if s.bins.size = 0 then .error (.invalid "cache.bins" "at least one bin is required")
  s.bins.toList.forM fun (name, b) => checkBin name b
  let url := trimUrl s.database.url
  if s.needsDatabase ∧ url = none then
    .error (.invalid CacheSettings.urlKey CacheSettings.urlReason)
  checkPositive "cache.database.max_connections" s.database.maxConnections
  if let some missing := s.requiredBins.find? fun bin => !s.bins.contains bin then
    .error (.invalid "cache.required_bins" (missingReason missing))
  if !s.bins.contains s.pageBin then
    .error (.invalid "cache.page_bin" (missingReason s.pageBin))
  .ok { s with database := { s.database with url } }

def levelReason : String :=
  "failed to parse: error parsing level filter: expected one of \"off\", \"error\", \"warn\", "
    ++ "\"info\", \"debug\", \"trace\", or a number 0-5"

/-- Checks the log level; without one it is `info`. -/
def checkLevel : Option String → Except Fault LogLevel
  | none => .ok .info
  | some s =>
    match LogLevel.read? s with
    | some level => .ok level
    | none => .error (.invalid "logging.level" levelReason)

def Draft.check (d : Draft) : Except Fault Settings := do
  let level ← checkLevel d.level
  let cache ← checkCache d.cache
  .ok { level, json := d.json.getD false, cache }

end Settings
end TaggedCache
