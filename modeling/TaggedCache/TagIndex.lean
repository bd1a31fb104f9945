import TaggedCache.Table
import TaggedCache.TagSet

/-!
# Which keys carry which tags

Two tables, one per direction. A tag is listed as long as some key carries it, so whoever keeps data
per tag learns from `register` and `unregister` which tags have just lost their last key.
-/

namespace TaggedCache

/-- The tags of every key and the keys of every tag. -/
structure TagIndex where
  keysOf : Table Tag (List String)
  tagsOf : Table String TagSet

namespace TagIndex

/-- The index without keys. -/
def empty : TagIndex := ⟨.empty, .empty⟩

instance : Inhabited TagIndex := ⟨empty⟩

def attach (key : String) (keysOf : Table Tag (List String)) (tag : Tag) :
    Table Tag (List String) :=
  let keys := (keysOf.get? tag).getD []
  keysOf.put tag (if key ∈ keys then keys else keys ++ [key])

/-- Takes a key away from some tags, and gives the tags that no key carries any more. -/
def detach (key : String) : List Tag → Table Tag (List String) → List Tag × Table Tag (List String)
  | [], keysOf => ([], keysOf)
  | tag :: rest, keysOf =>
    match keysOf.get? tag with
    | none => detach key rest keysOf
    | some keys =>
      match keys.filter (· ≠ key) with
      | [] =>
        let (orphans, keysOf) := detach key rest (keysOf.erase tag)
        (tag :: orphans, keysOf)
      | k :: ks => detach key rest (keysOf.put tag (k :: ks))

/-- Forgets a key, and gives the tags that lost their last key. -/
def unregister (key : String) (i : TagIndex) : List Tag × TagIndex :=
  match i.tagsOf.get? key with
  | none => ([], i)
  | some tags =>
    let (orphans, keysOf) := detach key tags.toList i.keysOf
    (orphans, ⟨keysOf, i.tagsOf.erase key⟩)

/-- Records the tags of a key in place of those it had, and gives the tags it had that no key carries
any more. -/
def register (key : String) (tags : TagSet) (i : TagIndex) : List Tag × TagIndex :=
  let (orphans, i) := i.unregister key
  (orphans.filter fun tag => !tags.contains tag.text,
    ⟨tags.toList.foldl (attach key) i.keysOf, i.tagsOf.put key tags⟩)

/-- True when some key carries the tag. -/
def hasTag (i : TagIndex) (tag : Tag) : Bool := (i.keysOf.get? tag).isSome

/-- The keys that carry at least one of the tags, each once. -/
def keysForTags (i : TagIndex) (tags : TagSet) : List String :=
  (tags.toList.flatMap fun tag => (i.keysOf.get? tag).getD []).eraseDups

def tagsForKey (i : TagIndex) (key : String) : Option TagSet := i.tagsOf.get? key

def tagCount (i : TagIndex) : Nat := i.keysOf.size

def keyCount (i : TagIndex) : Nat := i.tagsOf.size

end TagIndex
end TaggedCache
