import TaggedCache.Storage

/-!
# Bins that answer by script

A bin that keeps nothing, answers its tag operations as written down before, and remembers them.
-/

namespace TaggedCache

/-- A bin that answers by script. -/
structure Scripted where
  kind : String
  /-- The delay and the outcome of each of the next tag operations. -/
  replies : List (Nat × Except BinFault Unit)
  afterwards : Nat × Except BinFault Unit
  /-- The tag operations so far. -/
  calls : List (Operation × TagSet)

namespace Scripted

/-- A bin whose tag operations do nothing and take no time. -/
def idle (kind : String) : Scripted := ⟨kind, [], (0, .ok ()), []⟩

/-- An operation that is cut off has been asked for all the same. -/
instance : Storage Scripted where
  kind b := b.kind
  get _ _ b := (.ok .absent, b)
  set _ _ b := (.ok (), b)
  delete _ b := (.ok (), b)
  applyTags operation tags b :=
    let (delay, outcome) := b.replies.headD b.afterwards
    let next := { b with replies := b.replies.tail, calls := b.calls ++ [(operation, tags)] }
    ⟨delay, outcome, next, next⟩

end Scripted
end TaggedCache
