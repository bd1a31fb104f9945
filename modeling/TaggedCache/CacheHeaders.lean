import TaggedCache.Http.Header
import TaggedCache.Json.Reader
import TaggedCache.Json.Writer
import TaggedCache.Metadata

/-!
# Cacheability in header fields

Cacheability travels in three header fields: the tags with spaces between them, the age in seconds
with `-1` for permanent, and the key as a JSON array. A response that may not be cached has none of
them. Reading splits the tags at white space, so a tag with a space in it comes back as several.
-/

namespace TaggedCache

/-- The values of the three fields; a field without a value is left out. -/
structure CacheHeaders where
  tags : Option Bytes
  maxAge : Option Bytes
  keys : Option Bytes
deriving DecidableEq, Repr

namespace CacheHeaders

def tagsName : String := "x-cache-tags"

def maxAgeName : String := "cache_max_age"

def keysName : String := "cache_keys"

/-- The fields of what may not be cached: none. -/
def empty : CacheHeaders := ⟨none, none, none⟩

/-- True when no field has a value. -/
def isEmpty (a : CacheHeaders) : Bool := a.tags.isNone && a.maxAge.isNone && a.keys.isNone

/-! ## Writing -/

def value (name : String) (text : String) : Except Fault Bytes :=
  match Headers.ofText? text with
  | some bs => .ok bs
  | none => .error (.badHeader name .unwritable)

def tagsValue (tags : TagSet) : Except Fault (Option Bytes) :=
  if tags.isEmpty then .ok none else (value tagsName (tags.join " ")).map some

def maxAgeValue (a : MaxAge) : Option Bytes :=
  if a.isZero then none else some (.ofText (String.ofList (Numeral.ofInt a.toInt)))

def keysValue (keys : List KeyPart) : Except Fault (Option Bytes) :=
  if keys = [] then .ok none
  else (value keysName (KeyPart.listToJson keys).compact).map some

def ofMetadata (m : Metadata) : Except Fault CacheHeaders :=
  if !m.cacheable then .ok empty
  else do
    let tags ← tagsValue m.tags
    let keys ← keysValue m.keys
    .ok ⟨tags, maxAgeValue m.maxAge, keys⟩

/-- Some header fields with these three in place of those they had. -/
def apply (a : CacheHeaders) (hs : Headers) : Headers :=
  ((hs.assign tagsName a.tags).assign maxAgeName a.maxAge).assign keysName a.keys

/-! ## Reading -/

def text (name : String) (bs : Bytes) : Except Fault String :=
  match Headers.text? bs with
  | some s => .ok s
  | none => .error (.badHeader name .unprintable)

def readTags (bs : Bytes) : Except Fault TagSet := do
  let s ← text tagsName bs
  TagSet.ofTexts ((Text.words s.toList).map String.ofList)

def readMaxAge (bs : Bytes) : Except Fault MaxAge := do
  let s ← text maxAgeName bs
  match Numeral.readInt 64 (Text.trim s.toList) with
  | .ok i => .ok (.ofInt i)
  | .error fault => .error (.badHeader maxAgeName (.number fault))

def readKeys (bs : Bytes) : Except Fault (List KeyPart) := do
  let s ← text keysName bs
  match (Json.read? s).bind KeyPart.listOfJson? with
  | some parts => .ok parts
  | none => .error (.badHeader keysName .keys)

/-- Reads a field that may be missing. -/
def readOr {α : Type} (missing : α) (read : Bytes → Except Fault α) : Option Bytes → Except Fault α
  | some bs => read bs
  | none => .ok missing

/-- The cacheability in some header fields, if there is any of it. A missing age counts as zero. -/
def read (hs : Headers) : Except Fault (Option Metadata) :=
  let a : CacheHeaders := ⟨hs.get? tagsName, hs.get? maxAgeName, hs.get? keysName⟩
  if a.isEmpty then .ok none
  else do
    let tags ← readOr .empty readTags a.tags
    let maxAge ← readOr .zero readMaxAge a.maxAge
    let keys ← readOr [] readKeys a.keys
    .ok (some ⟨keys, tags, maxAge, true⟩)

end CacheHeaders
end TaggedCache
