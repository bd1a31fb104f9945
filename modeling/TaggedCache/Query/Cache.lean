import TaggedCache.Collector
import TaggedCache.Json.Grammar
import TaggedCache.Query.Fingerprint
import TaggedCache.Storage

/-!
# Caching query results

A result is read from a bin or, failing that, taken from the database and written to the bin. Whatever
goes wrong on the cache's side, the query is executed and its result returned.
-/

namespace TaggedCache

/-- How results of a type are stored. -/
structure Codec (α : Type) where
  /-- The stored form; some results have none. -/
  encode : α → Option Bytes
  decode : Bytes → Option α

namespace Codec

def json : Codec Json where
  encode v := some v.canonical.bytes
  decode bs := (Json.readBytes? bs).map Json.canonical

def text : Codec String where
  encode s := some (Json.text s).bytes
  decode bs := match Json.readBytes? bs with
    | some (.text s) => some s
    | _ => none

/-- The natural number of a JSON value, if it is one of 64 bits. -/
def natOf? : Json → Option Nat
  | .number (.integer i) => if 0 ≤ i then some i.toNat else none
  | _ => none

/-- A list of natural numbers of 64 bits, stored as a JSON array. -/
def naturals : Codec (List Nat) where
  encode ns := some (Json.array (ns.map Json.nat)).bytes
  decode bs := match Json.readBytes? bs with
    | some (.array items) => items.mapM natOf?
    | _ => none

/-- A result that has no stored form and that every JSON text stands for. -/
def blank : Codec Unit where
  encode _ := none
  decode bs := if Json.isTextBytes bs then some () else none

end Codec

namespace Query

/-- How a call ended. -/
structure Answer (α ε : Type) where
  result : Except ε α
  /-- True when the query was executed. -/
  executed : Bool
deriving Repr

variable {α β ε : Type} [Storage β]

/-- The result stored under a key, if it may be served and can be read. -/
def read (codec : Codec α) (now : UInt64) (key : String) (bin : β) : Option α × β :=
  match Storage.get now key bin with
  | (.ok (.fresh item), bin) => (codec.decode item.data, bin)
  | (_, bin) => (none, bin)

/-- Stores a result. A failure goes unnoticed. -/
def write (codec : Codec α) (now : UInt64) (key : String) (value : α) (tags : TagSet)
    (maxAge : MaxAge) (bin : β) : β :=
  if maxAge.isZero then bin
  else
    match codec.encode value with
    | none => bin
    | some data => (Storage.set key ⟨data, tags, maxAge, now⟩ bin).2

/-- The result of a query, read from the bin or executed and written to it. `execute` is how the
database answers, `now` when the bin is read and `finished` when the database has answered. The tags
and the age are reported to the collector. -/
def getOrExecute (codec : Codec α) (now finished : UInt64) (sql : String) (params : List Param)
    (tags : TagSet) (maxAge : MaxAge) (execute : Except ε α) (collector : Collector) (bin : β) :
    Answer α ε × Collector × β :=
  let collector := collector.record ⟨[], tags, maxAge, true⟩
  match key sql params with
  | .error _ => (⟨execute, true⟩, collector, bin)
  | .ok key =>
    match read codec now key bin with
    | (some value, bin) => (⟨.ok value, false⟩, collector, bin)
    | (none, bin) =>
      match execute with
      | .error e => (⟨.error e, true⟩, collector, bin)
      | .ok value =>
        (⟨.ok value, true⟩, collector, write codec finished key value tags maxAge bin)

end Query
end TaggedCache
