import TaggedCache.Storage

/-!
# Bins of either of two kinds

A cache may keep some bins in one way and others in another.
-/

namespace TaggedCache

variable {α β : Type} [Storage α] [Storage β]

instance : Storage (α ⊕ β) where
  kind
    | .inl b => Storage.kind b
    | .inr b => Storage.kind b
  get now key
    | .inl b => let (result, b) := Storage.get now key b; (result, .inl b)
    | .inr b => let (result, b) := Storage.get now key b; (result, .inr b)
  set key item
    | .inl b => let (result, b) := Storage.set key item b; (result, .inl b)
    | .inr b => let (result, b) := Storage.set key item b; (result, .inr b)
  delete key
    | .inl b => let (result, b) := Storage.delete key b; (result, .inl b)
    | .inr b => let (result, b) := Storage.delete key b; (result, .inr b)
  applyTags operation tags
    | .inl b =>
      let r := Storage.applyTags operation tags b
      ⟨r.delay, r.outcome, .inl r.after, .inl r.cut⟩
    | .inr b =>
      let r := Storage.applyTags operation tags b
      ⟨r.delay, r.outcome, .inr r.after, .inr r.cut⟩

end TaggedCache
