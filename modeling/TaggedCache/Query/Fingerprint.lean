import TaggedCache.Digest.Sha256
import TaggedCache.Fault
import TaggedCache.Query.Param

/-!
# Query fingerprints

A query is identified by the digest of one text that holds its SQL and its parameters in order. The
text starts with the name of the scheme, so a later scheme never meets the digests of this one.
-/

namespace TaggedCache
namespace Query

def scheme : String := "tagcache.query.v1"

/-- The text that is hashed. A query without one says why. -/
def encoding (sql : String) (params : List Param) : Except Fault (List Char) :=
  match Param.itemFlaw? params with
  | some reason => .error (.unfingerprintable reason)
  | none =>
    match Param.chars (.list [.text scheme, .text sql, .list params]) with
    | .ok cs => .ok cs
    | .error reason => .error (.unfingerprintable reason)

def fingerprint (sql : String) (params : List Param) : Except Fault String := do
  let cs ← encoding sql params
  .ok (Bytes.hex (Sha256.digest (Bytes.ofText (String.ofList cs))))

/-- The key under which the result of a query is stored. -/
def key (sql : String) (params : List Param) : Except Fault String := do
  .ok ("query:" ++ (← fingerprint sql params))

end Query
end TaggedCache
