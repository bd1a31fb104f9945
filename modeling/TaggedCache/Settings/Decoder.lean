import TaggedCache.Decimal.Notation
import TaggedCache.Json.Basic
import TaggedCache.Settings.Basic

/-!
# Settings from trees

Settings are read from JSON values. Every field has a default, unknown fields are passed over, and a
record may be given as an array of its fields in order. How single values are read is a choice of its
own: either a value must have the wanted type (`Reading.strict`), or texts, numbers and truth values
stand for one another where that makes sense (`Reading.lenient`).
-/

namespace TaggedCache
namespace Settings

/-- How single values are read. -/
structure Reading where
  nat : Nat → Json → Option Nat
  bool : Json → Option Bool
  text : Json → Option String
  word : Json → Option String
  surplus : Bool

/-! ## Strict reading -/

def strictNat (limit : Nat) : Json → Option Nat
  | .number (.integer i) => if 0 ≤ i ∧ i ≤ limit then some i.toNat else none
  | _ => none

/-- Values have the wanted type. A choice is a word, or an object with the word as its only key and
null as its value. -/
def Reading.strict : Reading where
  nat := strictNat
  bool
    | .bool b => some b
    | _ => none
  text
    | .text s => some s
    | _ => none
  word
    | .text s => some s
    | .object [(s, .null)] => some s
    | _ => none
  surplus := false

/-! ## Lenient reading -/

def truth? (s : String) : Option Bool :=
  let lower := String.ofList (s.toList.map Char.toLower)
  if lower ∈ ["1", "true", "on", "yes"] then some true
  else if lower ∈ ["0", "false", "off", "no"] then some false
  else none

/-- A number of 64 bits from any single value. Words for truth count as one and zero, and floats are
rounded, half away from zero, to the nearest number in range. -/
def looseNat? : Json → Option Nat
  | .bool b => some b.toNat
  | .number (.integer i) => if 0 ≤ i ∧ i ≤ Numeral.wordLimit then some i.toNat else none
  | .number (.float x) => some (x.roundClamped 0 Numeral.wordLimit).toNat
  | .text s =>
    match truth? s with
    | some b => some b.toNat
    | none => (Numeral.readNat Numeral.wordLimit s.toList).toOption
  | _ => none

/-- A truth value from any single value. Numbers other than zero are true. -/
def looseBool? : Json → Option Bool
  | .bool b => some b
  | .number (.integer i) => some (i ≠ 0)
  | .number (.float x) => some (!x.isZero)
  | .text s => truth? s
  | _ => none

def looseText? : Json → Option String
  | .text s => some s
  | .bool b => some (if b then "true" else "false")
  | .number (.integer i) => some (String.ofList (Numeral.ofInt i))
  | .number (.float x) => some (Decimal.plainText x)
  | _ => none

/-- Texts, numbers and truth values stand for one another. A choice is a word, or an object with the
word as its only key. -/
def Reading.lenient : Reading where
  nat limit v := (looseNat? v).filter (· ≤ limit)
  bool := looseBool?
  text := looseText?
  word
    | .text s => some s
    | .object [(s, _)] => some s
    | _ => none
  surplus := true

/-! ## Records -/

namespace Reading

variable {α : Type}

/-- The fields of a record by name, from an object or from an array in the order of the names. -/
def record (r : Reading) (names : List String) : Json → Option (String → Option Json)
  | .object members => some (Json.object members).field?
  | .array items =>
    if r.surplus ∨ items.length ≤ names.length then some (Json.object (names.zip items)).field?
    else none
  | _ => none

def field (read : Json → Option α) (default : α) : Option Json → Option α
  | some v => read v
  | none => some default

def optional (read : Json → Option α) : Json → Option (Option α)
  | .null => some none
  | v => (read v).map some

def list (read : Json → Option α) : Json → Option (List α)
  | .array items => items.mapM read
  | _ => none

def roster (read : Json → Option α) : Json → Option (Roster α)
  | .object members => do
    let entries ← members.mapM fun (name, v) => do some (name, ← read v)
    some (.ofList entries)
  | _ => none

def kind (r : Reading) (v : Json) : Option BinKind := do BinKind.ofWord? (← r.word v)

def bin (r : Reading) (v : Json) : Option BinSettings := do
  let d : BinSettings := {}
  let f ← r.record ["backend", "capacity"] v
  some {
    kind := ← field r.kind d.kind (f "backend")
    capacity := ← field (r.nat Numeral.wordLimit) d.capacity (f "capacity") }

def database (r : Reading) (v : Json) : Option DatabaseSettings := do
  let d : DatabaseSettings := {}
  let f ← r.record ["url", "max_connections"] v
  some {
    url := ← field (optional r.text) d.url (f "url")
    maxConnections := ← field (r.nat (UInt32.size - 1)) d.maxConnections (f "max_connections") }

def cache (r : Reading) (v : Json) : Option CacheSettings := do
  let d : CacheSettings := {}
  let f ← r.record ["invalidation_timeout_ms", "failure_log_limit", "required_bins", "page_bin",
    "database", "bins"] v
  some {
    timeoutMillis := ← field (r.nat Numeral.wordLimit) d.timeoutMillis (f "invalidation_timeout_ms")
    failureLogLimit := ← field (r.nat Numeral.wordLimit) d.failureLogLimit (f "failure_log_limit")
    requiredBins := ← field (list r.text) d.requiredBins (f "required_bins")
    pageBin := ← field r.text d.pageBin (f "page_bin")
    database := ← field r.database d.database (f "database")
    bins := ← field (roster r.bin) d.bins (f "bins") }

/-- What is chosen for logging: the level and whether lines are JSON. -/
def logging (r : Reading) (v : Json) : Option (Option String × Option Bool) := do
  let f ← r.record ["level", "json"] v
  some (← field (optional r.text) none (f "level"), ← field (optional r.bool) none (f "json"))

def draft (r : Reading) (v : Json) : Option Draft := do
  let f ← r.record ["logging", "cache"] v
  let (level, json) ← field r.logging (none, none) (f "logging")
  some { level, json, cache := ← field r.cache {} (f "cache") }

end Reading
end Settings
end TaggedCache
