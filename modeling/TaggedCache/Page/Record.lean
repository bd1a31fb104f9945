import TaggedCache.Http.Message
import TaggedCache.Json.Reader
import TaggedCache.Json.Writer
import TaggedCache.Text.Base64

/-!
# What the page cache stores

Under the key of an address lies either a complete response, or the list of contexts that the response
varies by; in the latter case the responses lie under keys of their own. Both are stored as JSON, the
body in base64.
-/

namespace TaggedCache
namespace Page

/-- What is stored under one key. -/
inductive Record where
  /-- A complete response. The body is in base64. -/
  | page (status : Nat) (headers : List (String × String)) (body : String)
  | vary (contexts : List String)
deriving DecidableEq, Repr

namespace Record

/-! ## Stored form -/

def toJson : Record → Json
  | .page status headers body =>
    .object [("kind", .text "page"), ("status", .nat status),
      ("headers", .array (headers.map fun h => Json.texts [h.1, h.2])), ("body", .text body)]
  | .vary contexts => .object [("kind", .text "vary"), ("contexts", Json.texts contexts)]

def texts? : Json → Option (List String)
  | .array items => items.mapM fun
    | .text s => some s
    | _ => none
  | _ => none

def pair? : Json → Option (String × String)
  | .array [.text a, .text b] => some (a, b)
  | _ => none

def headers? : Json → Option (List (String × String))
  | .array items => items.mapM pair?
  | _ => none

def status? : Json → Option Nat
  | .number (.integer i) => if 0 ≤ i ∧ i.toNat < UInt16.size then some i.toNat else none
  | _ => none

def text? : Json → Option String
  | .text s => some s
  | _ => none

/-- A record from its kind and its fields in declared order. -/
def ofFields? (kind : String) (fields : List Json) : Option Record :=
  match kind, fields with
  | "page", [status, headers, body] => do
    some (.page (← status? status) (← headers? headers) (← text? body))
  | "vary", [contexts] => (texts? contexts).map .vary
  | _, _ => none

def fieldNames : String → List String
  | "page" => ["status", "headers", "body"]
  | "vary" => ["contexts"]
  | _ => []

def single? (members : List (String × Json)) (name : String) : Option Json :=
  match members.filter fun m => m.1 = name with
  | [(_, v)] => some v
  | _ => none

/-- Reads a record: an object with its kind and its fields, or an array of both in declared order.
Members of other names are ignored. -/
def ofJson? : Json → Option Record
  | .object members => do
    let kind ← text? (← single? members "kind")
    ofFields? kind (← (fieldNames kind).mapM (single? members))
  | .array (.text kind :: fields) => ofFields? kind fields
  | _ => none

def encode (r : Record) : Bytes := r.toJson.bytes

def decode? (bs : Bytes) : Option Record := (Json.readBytes? bs).bind ofJson?

/-! ## Responses -/

/-- The name of the field that says whether a response came from the cache. -/
def markName : String := "x-tagcache"

/-- The record of a response whose body was read as a whole. Values without a text are left out. -/
def ofResponse (status : Nat) (headers : Headers) (body : Bytes) : Record :=
  .page status
    (headers.filterMap fun h => (Headers.text? h.2).map fun text => (h.1, text))
    (String.ofList (Base64.encode body))

/-- The header fields of a stored response. A bad name makes it unusable, a bad value is left out. -/
def storedHeaders? : List (String × String) → Option Headers
  | [] => some []
  | (name, text) :: rest =>
    match Headers.ofText? text with
    | none => storedHeaders? rest
    | some value => do
      let name ← Headers.name? name
      some ((name, value) :: (← storedHeaders? rest))

/-- The response of a record, marked as served from the cache. -/
def response? : Record → Option Response
  | .page status headers body => do
    let bytes ← Base64.decode? body.toList
    let fields ← storedHeaders? headers
    if Response.isStatus status then
      some ⟨status, fields.insert markName (.ofText "HIT"), .ofBytes bytes⟩
    else none
  | .vary _ => none

end Record
end Page
end TaggedCache
