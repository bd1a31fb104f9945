import TaggedCache.KeyPart
import TaggedCache.MaxAge
import TaggedCache.TagSet

/-!
# Cacheability

What an artifact needs to be cached: its key, its tags, how long it stays valid, and whether it may be
cached at all. A composite inherits from its parts: all tags, the smallest age, the conjunction of the
flags, and every context its parts vary by. Fixed key parts stay with their owner.
-/

namespace TaggedCache

/-- The cacheability of an artifact. -/
structure Metadata where
  keys : List KeyPart
  tags : TagSet
  /-- How long it stays valid. -/
  maxAge : MaxAge
  /-- False when it may not be cached, whatever its age. -/
  cacheable : Bool
deriving DecidableEq, Repr

namespace Metadata

/-- No key, no tags, permanent and cacheable: what an artifact without parts has. -/
def empty : Metadata := ⟨[], .empty, .permanent, true⟩

instance : Inhabited Metadata := ⟨empty⟩

def addTags (m : Metadata) (tags : TagSet) : Metadata := { m with tags := m.tags ∪ tags }

/-- Appends the contexts among `parts` that are not yet in `keys`, one after another. -/
def addContexts (keys : List KeyPart) : List KeyPart → List KeyPart
  | [] => keys
  | p :: rest =>
    if p.isContext ∧ p ∉ keys then addContexts (keys ++ [p]) rest else addContexts keys rest

def addPart (m part : Metadata) : Metadata where
  keys := addContexts m.keys part.keys
  tags := m.tags ∪ part.tags
  maxAge := m.maxAge.min part.maxAge
  cacheable := m.cacheable && part.cacheable

def compose (parts : List Metadata) : Metadata := parts.foldl addPart empty

/-- True when an item with this cacheability may be written. -/
def shouldStore (m : Metadata) : Bool := m.cacheable && !m.maxAge.isZero

/-- The tokens of the contexts in the key, in order. -/
def contexts (m : Metadata) : List String := m.keys.filterMap KeyPart.token?

def renderPart (resolve : String → Option String) : KeyPart → Except Fault String
  | .literal s => .ok s
  | .context t =>
    match resolve t with
    | some v => .ok ("[" ++ t ++ "]=" ++ v)
    | none => .error (.unresolvedContext t)

/-- The storage key: the parts with colons between them, contexts with their values. -/
def storageKey (m : Metadata) (resolve : String → Option String) : Except Fault String := do
  .ok (Text.join ":" (← m.keys.mapM (renderPart resolve)))

end Metadata
end TaggedCache
