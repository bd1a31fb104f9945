import TaggedCache.Http.Body
import TaggedCache.Http.Header
import TaggedCache.Http.Target

/-!
# Requests and responses
-/

namespace TaggedCache

/-- A request. -/
structure Request where
  /-- The method, such as `GET`. -/
  method : String
  target : Target
  headers : Headers
deriving Inhabited

/-- A response. -/
structure Response where
  status : Nat
  headers : Headers
  body : Body
deriving Inhabited

/-- True for a status code. -/
def Response.isStatus (code : Nat) : Bool := 100 ≤ code && code ≤ 999

/-- An empty response of status 200. -/
def Response.empty : Response := ⟨200, [], .ofBytes []⟩

end TaggedCache
