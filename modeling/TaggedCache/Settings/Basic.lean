import TaggedCache.Duration
import TaggedCache.Numeral
import TaggedCache.Room
import TaggedCache.Roster

/-!
# Settings

What can be chosen about a cache: its bins with what keeps their items, the bins that have to be
there, how long a broadcast waits, how many failed ones are remembered, and how much is logged.
-/

namespace TaggedCache

/-! ## Bins -/

/-- What keeps the items of a bin. -/
inductive BinKind where
  | memory
  | postgres
deriving DecidableEq, Repr, Inhabited

def BinKind.word : BinKind → String
  | .memory => "memory"
  | .postgres => "postgres"

def BinKind.ofWord? (word : String) : Option BinKind :=
  [BinKind.memory, .postgres].find? fun k => k.word = word

theorem BinKind.ofWord?_word (k : BinKind) : BinKind.ofWord? k.word = some k := by
  cases k <;> rfl

/-- What is chosen for one bin. -/
structure BinSettings where
  kind : BinKind := .memory
  capacity : Nat := 1000
deriving DecidableEq, Repr, Inhabited

/-- How many items a bin in memory has room for: always at least one. -/
def BinSettings.room (s : BinSettings) : Nat := roomFor s.capacity

/-- What is chosen for the database of all its bins. -/
structure DatabaseSettings where
  url : Option String := none
  maxConnections : Nat := 4
deriving DecidableEq, Repr, Inhabited

/-! ## The cache -/

/-- What is chosen for the cache. -/
structure CacheSettings where
  /-- How many milliseconds a broadcast waits for a bin. -/
  timeoutMillis : Nat := 5000
  failureLogLimit : Nat := 256
  requiredBins : List String := []
  pageBin : String := "page"
  database : DatabaseSettings := {}
  bins : Roster BinSettings := .ofList [("page", {}), ("render", {}), ("data", {})]
deriving DecidableEq, Inhabited

namespace CacheSettings

def timeout (s : CacheSettings) : Duration := ⟨s.timeoutMillis⟩

/-- How many failed broadcasts there is room for: always at least one. -/
def failureLogRoom (s : CacheSettings) : Nat := roomFor s.failureLogLimit

/-- True when some bin is kept in the database. -/
def needsDatabase (s : CacheSettings) : Bool :=
  s.bins.toList.any fun b => b.2.kind = .postgres

end CacheSettings

/-! ## Logging -/

/-- How much is logged. -/
inductive LogLevel where
  | off
  | error
  | warn
  | info
  | debug
  | trace
deriving DecidableEq, Repr, Inhabited

namespace LogLevel

/-- The levels, the quietest first. -/
def all : List LogLevel := [.off, .error, .warn, .info, .debug, .trace]

def word : LogLevel → String
  | .off => "off"
  | .error => "error"
  | .warn => "warn"
  | .info => "info"
  | .debug => "debug"
  | .trace => "trace"

/-- Reads a level: its number, its word in any case, or nothing at all for errors only. -/
def read? (s : String) : Option LogLevel :=
  match Numeral.readNat Numeral.wordLimit s.toList with
  | .ok n => all[n]?
  | .error _ =>
    if s = "" then some .error
    else
      let lower := String.ofList (s.toList.map Char.toLower)
      all.find? fun l => l.word = lower

end LogLevel

/-- What is chosen, once it has been checked. -/
structure Settings where
  level : LogLevel := .info
  json : Bool := false
  cache : CacheSettings := {}
deriving DecidableEq, Inhabited

/-- What is chosen, before it has been checked. -/
structure Settings.Draft where
  level : Option String := none
  json : Option Bool := none
  cache : CacheSettings := {}
deriving DecidableEq, Inhabited

end TaggedCache
