/-!
# Tag operations

What a broadcast does to every item that carries one of its tags.
-/

namespace TaggedCache

/-- What a broadcast asks of every bin. -/
inductive Operation where
  | invalidate
  | delete
deriving DecidableEq, Repr, Inhabited

def Operation.word : Operation → String
  | .invalidate => "invalidate"
  | .delete => "delete"

end TaggedCache
