import TaggedCache.Room
import TaggedCache.Sql.Statement

/-!
# Database servers

A server takes one statement after another. Each takes some time, and ends with a row, with nothing or
with a fault.
-/

namespace TaggedCache
namespace Sql

/-- How one statement ended. -/
structure Sent (σ : Type) where
  /-- The milliseconds it took. -/
  elapsed : Nat
  /-- The row it found, or nothing; or why it failed. -/
  result : Except DatabaseFault (Option Row)
  server : σ

/-- Something that takes statements. -/
class Server (σ : Type) where
  send : Statement → σ → Sent σ

/-- A server that no statement reaches. -/
structure Unreachable where
  fault : DatabaseFault
  /-- The milliseconds until that is known. -/
  patience : Nat
deriving DecidableEq, Repr

instance : Server Unreachable where
  send _ s := ⟨s.patience, .error s.fault, s⟩

/-- A server that no connection is made to before half a minute is over. -/
def Unreachable.silent : Unreachable := ⟨.poolTimedOut, 30000⟩

/-- The connections to a server that all bins in its database share. -/
structure Pool where
  address : String
  /-- How many there are at most. -/
  connections : Nat
  connections_pos : 0 < connections
deriving DecidableEq, Repr

/-- The connections to an address. A limit of zero counts as one. -/
def Pool.new (address : String) (limit : Nat) : Pool := ⟨address, roomFor limit, roomFor_pos limit⟩

/-- Sends statements one after another, up to the first that fails. -/
def sendAll {σ : Type} [Server σ] : List Statement → σ → Sent σ
  | [], server => ⟨0, .ok none, server⟩
  | s :: rest, server =>
    let first := Server.send s server
    match first.result with
    | .error _ => first
    | .ok _ =>
      let last := sendAll rest first.server
      { last with elapsed := first.elapsed + last.elapsed }

end Sql
end TaggedCache
