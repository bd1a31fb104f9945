import TaggedCache.Bytes

/-!
# Bodies

A body arrives in chunks, and a chunk may be an error instead. Before anything has arrived there may
be a bound below which the length cannot be. To store a body it has to be read as a whole; `buffer`
does so up to a limit and, failing that, gives back a body that yields the same as before.
-/

namespace TaggedCache

/-- A body that has not been read yet. -/
structure Body where
  /-- The chunks in order of arrival, with the wording of an error in place of one. -/
  chunks : List (Except String Bytes)
  atLeast : Nat
deriving Inhabited

namespace Body

def ofBytes (bs : Bytes) : Body := ⟨if bs = [] then [] else [.ok bs], bs.length⟩

/-- A body that arrives bit by bit, with nothing known about its length. -/
def ofChunks (chunks : List (Except String Bytes)) : Body := ⟨chunks, 0⟩

def bytes (b : Body) : Bytes := b.chunks.flatMap fun
  | .ok c => c
  | .error _ => []

/-- The wording of the last error of a body. -/
def lastError? (b : Body) : Option String :=
  (b.chunks.filterMap fun
    | .ok _ => none
    | .error e => some e).getLast?

/-- What became of a body that was to be read as a whole. -/
inductive Buffered where
  | complete (bytes : Bytes)
  /-- The body is too long or has failed; this one takes its place. -/
  | passthrough (body : Body)

/-- Reads chunk after chunk. `done` holds those already read, the latest first, and `total` their
length. Behind an error nothing more is read. -/
def bufferFrom (limit : Nat) (done : List Bytes) (total : Nat) :
    List (Except String Bytes) → Buffered
  | [] => .complete done.reverse.flatten
  | .ok chunk :: rest =>
    if limit < total + chunk.length then
      .passthrough (ofChunks ((chunk :: done).reverse.map .ok ++ rest))
    else bufferFrom limit (chunk :: done) (total + chunk.length) rest
  | .error e :: _ => .passthrough (ofChunks (done.reverse.map .ok ++ [.error e]))

/-- Reads a body of at most `limit` bytes as a whole. -/
def buffer (limit : Nat) (b : Body) : Buffered :=
  if limit < b.atLeast then .passthrough b else bufferFrom limit [] 0 b.chunks

end Body
end TaggedCache
