import TaggedCache.Sql.Server
import TaggedCache.Storage

/-!
# Bins in a database

Before its first other statement a bin sets up its tables. It remembers when that has succeeded, and
starts over at the next operation when it has not. An item of age zero is not written and sends
nothing.
-/

namespace TaggedCache
namespace Sql

/-- A bin in a database. -/
structure Bin (σ : Type) where
  name : String
  ready : Bool
  server : σ

namespace Bin

variable {σ : Type}

def new (name : String) (server : σ) : Bin σ := ⟨name, false, server⟩

def table (b : Bin σ) : String := tableOf b.name

/-- How one operation ended: the milliseconds, the row or fault, and the bin afterwards. -/
structure Ran (σ : Type) where
  /-- The milliseconds it took. -/
  elapsed : Nat
  /-- The row it found, or nothing; or why it failed. -/
  result : Except DatabaseFault (Option Row)
  bin : Bin σ

variable [Server σ]

/-- Sets up the tables, unless they are known to exist. -/
def prepare (b : Bin σ) : Ran σ :=
  if b.ready then ⟨0, .ok none, b⟩
  else
    let sent := sendAll (schema b.table) b.server
    ⟨sent.elapsed, sent.result, { b with ready := sent.result.isOk, server := sent.server }⟩

def run (s : Statement) (b : Bin σ) : Ran σ :=
  let prepared := b.prepare
  match prepared.result with
  | .error _ => prepared
  | .ok _ =>
    let sent := Server.send s prepared.bin.server
    ⟨prepared.elapsed + sent.elapsed, sent.result, { prepared.bin with server := sent.server }⟩

/-- The outcome of an operation that finds nothing. -/
def Ran.outcome (r : Ran σ) : Except BinFault Unit :=
  match r.result with
  | .ok _ => .ok ()
  | .error fault => .error (.database fault)

def get (now : UInt64) (key : String) (b : Bin σ) : Except BinFault Lookup × Bin σ :=
  let ran := b.run (selectRow b.table key)
  match ran.result with
  | .error fault => (.error (.database fault), ran.bin)
  | .ok none => (.ok .absent, ran.bin)
  | .ok (some row) => (row.lookup now, ran.bin)

def set (key : String) (item : Item) (b : Bin σ) : Except BinFault Unit × Bin σ :=
  if item.maxAge.isZero then (.ok (), b)
  else
    let ran := b.run (upsertRow b.table key item)
    (ran.outcome, ran.bin)

def delete (key : String) (b : Bin σ) : Except BinFault Unit × Bin σ :=
  let ran := b.run (deleteRow b.table key)
  (ran.outcome, ran.bin)

/-- Invalidates or removes every item that carries one of the tags. -/
def applyTags (operation : Operation) (tags : TagSet) (b : Bin σ) : Ran σ :=
  b.run (Sql.applyTags b.table operation tags)

/-- An operation that is cut off leaves the bin as it was. -/
instance : Storage (Bin σ) where
  kind _ := "postgres"
  get now key b := b.get now key
  set key item b := b.set key item
  delete key b := b.delete key
  applyTags operation tags b :=
    let ran := b.applyTags operation tags
    ⟨ran.elapsed, ran.outcome, ran.bin, b⟩

end Bin
end Sql
end TaggedCache
