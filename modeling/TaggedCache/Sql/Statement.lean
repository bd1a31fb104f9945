import TaggedCache.Item

/-!
# Statements and rows

The statements of a bin that keeps its items in a database. The text of a statement depends on what is
asked and on the name of the table only: keys, tags and payloads travel as bound values. A bin has a
table of its own, and all bins share one table with the invalidation counters of the tags.
-/

namespace TaggedCache
namespace Sql

/-- A value bound to a statement. -/
inductive Value where
  | text (value : String)
  | bytes (value : Bytes)
  | integer (value : Int64)
  | texts (values : List String)
deriving DecidableEq, Repr

/-- A statement with its bound values. -/
structure Statement where
  /-- The text, with the bound values numbered from `$1`. -/
  text : String
  /-- The bound values in order. -/
  binds : List Value
deriving DecidableEq, Repr

def tableOf (bin : String) : String := "cache_" ++ bin

/-! ## The schema -/

def createCounters : Statement where
  text := "CREATE TABLE IF NOT EXISTS cachetags (tag TEXT PRIMARY KEY, invalidations BIGINT NOT NULL "
    ++ "DEFAULT 0)"
  binds := []

def createTable (table : String) : Statement where
  text := "CREATE TABLE IF NOT EXISTS " ++ table ++ " (cid TEXT PRIMARY KEY, data BYTEA NOT NULL, "
    ++ "max_age BIGINT NOT NULL, created BIGINT NOT NULL, tags TEXT[] NOT NULL, checksum BIGINT NOT NULL)"
  binds := []

def createIndex (table : String) : Statement where
  text := "CREATE INDEX IF NOT EXISTS " ++ table ++ "_tags_idx ON " ++ table ++ " USING GIN (tags)"
  binds := []

/-- The statements that have to succeed before any other. -/
def schema (table : String) : List Statement := [createCounters, createTable table, createIndex table]

/-! ## Rows -/

/-- What is stored of an item, and the counter sums of its tags at the time of the write and now. -/
structure Row where
  data : Bytes
  /-- The age, `-1` for permanent. -/
  maxAge : Int64
  /-- When the item was written. -/
  created : Int64
  tags : List String
  checksum : Int64
  currentChecksum : Int64
deriving DecidableEq, Repr

def Row.latest : Nat := 9223372036854775807

/-- The row of an item. A time beyond the range of the column counts as its greatest value. -/
def Row.ofItem (i : Item) (checksum currentChecksum : Int64) : Row where
  data := i.data
  maxAge := .ofInt i.maxAge.toInt
  created := .ofNat (min i.created.toNat latest)
  tags := i.tags.texts
  checksum := checksum
  currentChecksum := currentChecksum

/-- The item of a row, unless a tag in it is none. A time before the clock counts as its start. -/
def Row.item (r : Row) : Except Fault Item := do
  let tags ← TagSet.ofTexts r.tags
  .ok ⟨r.data, tags, .ofInt r.maxAge.toInt, UInt64.ofNat r.created.toInt.toNat⟩

/-- What a read that finds a row answers at a time. -/
def Row.lookup (r : Row) (now : UInt64) : Except BinFault Lookup :=
  match r.item with
  | .error fault => .error (.storage ("corrupt tag column: " ++ fault.message))
  | .ok item =>
    if r.checksum ≠ r.currentChecksum ∨ item.isExpired now then .ok (.stale item)
    else .ok (.fresh item)

/-! ## Reading and writing -/

def selectRow (table key : String) : Statement where
  text := "SELECT c.data, c.max_age, c.created, c.tags, c.checksum, COALESCE( (SELECT "
    ++ "SUM(t.invalidations) FROM cachetags t WHERE t.tag = ANY(c.tags)), 0 )::BIGINT AS current_checksum "
    ++ "FROM " ++ table ++ " c WHERE c.cid = $1"
  binds := [.text key]

/-- Writes the row of a key; the database adds the counter sum. -/
def upsertRow (table key : String) (i : Item) : Statement :=
  let row := Row.ofItem i 0 0
  { text := "INSERT INTO " ++ table ++ " (cid, data, max_age, created, tags, checksum) VALUES ( $1, "
      ++ "$2, $3, $4, $5, COALESCE((SELECT SUM(invalidations) FROM cachetags WHERE tag = ANY($5)), "
      ++ "0)::BIGINT ) ON CONFLICT (cid) DO UPDATE SET data = EXCLUDED.data, max_age = EXCLUDED.max_age, "
      ++ "created = EXCLUDED.created, tags = EXCLUDED.tags, checksum = EXCLUDED.checksum"
    binds := [.text key, .bytes row.data, .integer row.maxAge, .integer row.created,
      .texts row.tags] }

def deleteRow (table key : String) : Statement :=
  ⟨"DELETE FROM " ++ table ++ " WHERE cid = $1", [.text key]⟩

/-! ## Tags -/

def raiseCounters (tags : TagSet) : Statement where
  text := "INSERT INTO cachetags (tag, invalidations) SELECT tag, 1 FROM UNNEST($1::TEXT[]) AS tag ON "
    ++ "CONFLICT (tag) DO UPDATE SET invalidations = cachetags.invalidations + 1"
  binds := [.texts tags.texts]

def deleteTagged (table : String) (tags : TagSet) : Statement :=
  ⟨"DELETE FROM " ++ table ++ " WHERE tags && $1::TEXT[]", [.texts tags.texts]⟩

def applyTags (table : String) : Operation → TagSet → Statement
  | .invalidate, tags => raiseCounters tags
  | .delete, tags => deleteTagged table tags

end Sql
end TaggedCache
