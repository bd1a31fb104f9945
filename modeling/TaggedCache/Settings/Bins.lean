import TaggedCache.Memory
import TaggedCache.Notifier
import TaggedCache.Page.Layer
import TaggedCache.Settings.Basic
import TaggedCache.Sql.Address
import TaggedCache.Sql.Bin
import TaggedCache.Storage.Either

/-!
# The bins of some settings

Registering a bin does not make it. What can go wrong then is an address of the database that is missing or
none, and a name that is no bin name. A bin is made when it is first used, or before that when all bins are
asked for. A bin in memory takes the room for all its items at once, so making one can go wrong as well; making
one in a database connects to nothing.
-/

namespace TaggedCache

/-- A bin in memory or in a database. -/
abbrev ConfiguredBin (σ : Type) := Memory ⊕ Sql.Bin σ

/-- What bins are made with. Things go wrong in the ways of `ε`. -/
structure Supply (ε σ : Type) where
  /-- Takes the room for a table with so many items, if there is that much. -/
  reserve : Nat → Except ε Unit
  /-- The server behind some connections. -/
  connect : Sql.Pool → σ
  /-- How a fault that is reported counts. -/
  fault : Fault → ε

/-- Room for every table, and one server for all connections. -/
def Supply.plenty {σ : Type} (server : σ) : Supply Fault σ where
  reserve _ := .ok ()
  connect _ := server
  fault := id

/-! ## Bins to be made -/

/-- A bin that is registered and not made yet. -/
inductive Pending where
  | memory (room : Nat)
  | postgres (pool : Sql.Pool)
deriving DecidableEq, Repr

namespace Pending

variable {ε σ : Type}

def kind : Pending → BinKind
  | .memory _ => .memory
  | .postgres _ => .postgres

/-- Makes a bin for its first use. -/
def make (supply : Supply ε σ) (name : String) : Pending → Except ε (ConfiguredBin σ)
  | .memory room => do
    supply.reserve room
    .ok (.inl (.new name room))
  | .postgres pool => .ok (.inr (.new name (supply.connect pool)))

/-- Makes one bin of a registry. -/
def get (supply : Supply ε σ) (bins : Registry Pending) (name : String) : Except ε (ConfiguredBin σ) := do
  let p ← (Registry.bin bins name).mapError supply.fault
  p.make supply name

/-- Fails on the first required name without a bin, and otherwise makes all bins in name order. -/
def validate (supply : Supply ε σ) (bins : Registry Pending) (required : List String) :
    Except ε (Registry (ConfiguredBin σ)) := do
  (Registry.validate bins required).mapError supply.fault
  bins.mapM (make supply)

end Pending

/-! ## Setting up -/

namespace CacheSettings

variable {ε σ : Type}

def urlKey : String := "cache.database.url"

/-- Why settings without an address are refused. -/
def urlReason : String := "required when any bin uses the postgres backend"

/-- The connections that the bins in the database share, if there is such a bin. -/
def pool (s : CacheSettings) : Except Fault (Option Sql.Pool) :=
  if s.needsDatabase then
    match s.database.url with
    | none => .error (.configuration urlKey urlReason)
    | some url => do
      (Sql.checkAddress url).mapError fun f => .configuration urlKey f.message
      .ok (some (.new url s.database.maxConnections))
  else .ok none

def pendingBin (pool : Option Sql.Pool) (name : String) (s : BinSettings) : Except Fault Pending := do
  Registry.checkName name
  match s.kind, pool with
  | .memory, _ => .ok (.memory s.room)
  | .postgres, some pool => .ok (.postgres pool)
  | .postgres, none => .error (.configuration urlKey urlReason)

/-- Registers the bins. -/
def pending (s : CacheSettings) : Except Fault (Registry Pending) := do
  let pool ← s.pool
  s.bins.mapM (pendingBin pool)

/-- The page cache over its bin, which is made for it. -/
def pageLayer (supply : Supply ε σ) (s : CacheSettings) (bins : Registry Pending) :
    Except ε Page.Layer := do
  let _ ← Pending.get supply bins s.pageBin
  .ok (.new s.pageBin)

/-- Sets up the bins and what broadcasts to them, once every required bin is there. -/
def notifierWith (supply : Supply ε σ) (s : CacheSettings) :
    Except ε (Notifier (ConfiguredBin σ)) := do
  let bins ← s.pending.mapError supply.fault
  let bins ← Pending.validate supply bins s.requiredBins
  .ok (.new (.new bins s.timeout) s.failureLogLimit)

/-- All bins, where there is room for each and one server for all. -/
def registry (server : σ) (s : CacheSettings) : Except Fault (Registry (ConfiguredBin σ)) := do
  let bins ← s.pending
  bins.mapM (Pending.make (.plenty server))

def notifier (server : σ) (s : CacheSettings) : Except Fault (Notifier (ConfiguredBin σ)) :=
  s.notifierWith (.plenty server)

end CacheSettings
end TaggedCache
