import TaggedCache.CacheHeaders
import TaggedCache.Collector
import TaggedCache.Page.Record
import TaggedCache.Registry
import TaggedCache.Storage

/-!
# Layers around a handler

A handler answers a request and, on the way, reports the cacheability of the parts it uses. Two layers
may stand around it. One writes what was reported, together with cache headers that the handler has
set itself, to the response. The other does the same and keeps complete responses in a bin, so that
the next request for the same address is answered without the handler.

A response that varies by contexts lies under a key that holds the values of these contexts, and the
list of contexts under the key of the address.
-/

namespace TaggedCache

/-- What a handler does with a request. -/
structure Handled where
  reports : List Collector.Step
  response : Response

namespace Page

/-! ## Annotating -/

/-- The cacheability of a response: what was reported, and what its headers say. Nothing, when neither
says anything; headers that cannot be read say nothing. -/
def cacheability (h : Handled) : Option Metadata :=
  let collected := Collector.collect h.reports
  let parsed := match CacheHeaders.read h.response.headers with
    | .ok m => m
    | .error _ => none
  match decide (collected = .empty), parsed with
  | true, none => none
  | false, none => some collected
  | true, some m => some m
  | false, some m => some (collected.addPart m)

/-- The response with its cacheability in the headers. When that cannot be written the response stays as
it is. -/
def annotated (m : Metadata) (r : Response) : Response :=
  match CacheHeaders.ofMetadata m with
  | .ok a => { r with headers := a.apply r.headers }
  | .error _ => r

/-- The handler with the annotation layer around it. What it reports stays inside. -/
def annotate (h : Handled) : Handled where
  reports := [.nested h.reports false]
  response := match cacheability h with
    | some m => annotated m h.response
    | none => h.response

/-! ## Keys -/

/-- How contexts get their values from the headers of a request. -/
abbrev Resolver := Headers → String → Option String

/-- Contexts that are header fields of the request, each under the name of its field. -/
def Resolver.ofFields (fields : List (String × String)) : Resolver := fun headers token => do
  let (_, field) ← fields.find? fun f => f.1 = token
  Headers.text? (← headers.get? (← Headers.name? field))

/-- The page cache. -/
structure Layer where
  bin : String
  bodyLimit : Nat
  /-- Resolves contexts; without it nothing is stored that varies. -/
  resolver : Option Resolver

/-- The longest body that is stored unless said otherwise. -/
def defaultBodyLimit : Nat := 1048576

def Layer.new (bin : String) : Layer := ⟨bin, defaultBodyLimit, none⟩

def Layer.ofRegistry {β : Type} (bins : Registry β) (bin : String) : Except Fault Layer := do
  let _ ← Registry.bin bins bin
  .ok (.new bin)

def baseKey (t : Target) : String :=
  match t.query with
  | some q => "page:" ++ t.path ++ "?" ++ q
  | none => "page:" ++ t.path

/-- The key of a variant of an address, if every context has a value. -/
def Layer.variantKey (layer : Layer) (base : String) (headers : Headers) (contexts : List String) :
    Option String := do
  let resolve ← layer.resolver
  let key : Metadata := { Metadata.empty with keys := contexts.map .context }
  match key.storageKey (resolve headers) with
  | .ok variant => some (base ++ "#" ++ variant)
  | .error _ => none

/-! ## Looking up and storing -/

variable {β : Type} [Storage β]

/-- The record under a key, if it may be served and can be read. -/
def read (now : UInt64) (key : String) (bin : β) : Option Record × β :=
  match Storage.get now key bin with
  | (.ok (.fresh item), bin) => (Record.decode? item.data, bin)
  | (_, bin) => (none, bin)

/-- The stored response for a request. A list of contexts is followed once. -/
def lookup (layer : Layer) (now : UInt64) (base : String) (headers : Headers) (bin : β) :
    Option Response × β :=
  match read now base bin with
  | (none, bin) => (none, bin)
  | (some (.vary contexts), bin) =>
    match layer.variantKey base headers contexts with
    | none => (none, bin)
    | some key =>
      match read now key bin with
      | (none, bin) => (none, bin)
      | (some record, bin) => (record.response?, bin)
  | (some record, bin) => (record.response?, bin)

/-- Writes a record with the tags and the age of a response. True when the bin took it. -/
def write (now : UInt64) (key : String) (record : Record) (m : Metadata) (bin : β) : Bool × β :=
  match Storage.set key ⟨record.encode, m.tags, m.maxAge, now⟩ bin with
  | (.ok (), bin) => (true, bin)
  | (.error _, bin) => (false, bin)

/-- Writes a response, and behind a response under a variant key the list of its contexts. -/
def store (now : UInt64) (base key : String) (contexts : List String) (record : Record)
    (m : Metadata) (bin : β) : β :=
  match write now key record m bin with
  | (true, bin) => if key = base then bin else (write now base (.vary contexts) m bin).2
  | (false, bin) => bin

/-! ## Serving -/

/-- What the page cache makes of a request. -/
structure Served where
  /-- True when the handler was run. -/
  handled : Bool
  reports : List Collector.Step
  response : Response

/-- The key to store a response under, if it may be stored. -/
def Layer.storeKey (layer : Layer) (base : String) (headers : Headers) (status : Nat)
    (m : Metadata) : Option String :=
  if status ≠ 200 ∨ !m.shouldStore then none
  else if m.contexts = [] then some base
  else layer.variantKey base headers m.contexts

/-- Stores the annotated response of a handler, if it may be stored and its body is not too long. -/
def Layer.keep (layer : Layer) (now : UInt64) (base : String) (headers : Headers) (m : Metadata)
    (r : Response) (bin : β) : Response × β :=
  match layer.storeKey base headers r.status m with
  | none => (r, bin)
  | some key =>
    match r.body.buffer layer.bodyLimit with
    | .passthrough body => ({ r with body }, bin)
    | .complete bytes =>
      let record := Record.ofResponse r.status r.headers bytes
      let bin := store now base key m.contexts record m bin
      (⟨r.status, r.headers.insert Record.markName (.ofText "MISS"), .ofBytes bytes⟩, bin)

/-- Serves a request. `handler` is what the handler does if it is run, `now` when the bin is read and
`finished` when the handler has answered. Only `GET` goes through the cache. -/
def Layer.serve (layer : Layer) (now finished : UInt64) (request : Request) (handler : Handled)
    (bin : β) : Served × β :=
  if request.method ≠ "GET" then (⟨true, handler.reports, handler.response⟩, bin)
  else
    let base := baseKey request.target
    match lookup layer now base request.headers bin with
    | (some response, bin) => (⟨false, [], response⟩, bin)
    | (none, bin) =>
      let reports : List Collector.Step := [.nested handler.reports false]
      match cacheability handler with
      | none => (⟨true, reports, handler.response⟩, bin)
      | some m =>
        let (response, bin) :=
          layer.keep finished base request.headers m (annotated m handler.response) bin
        (⟨true, reports, response⟩, bin)

end Page
end TaggedCache
