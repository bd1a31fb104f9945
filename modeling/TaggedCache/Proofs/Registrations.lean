import Mathlib.Data.Set.Card
import TaggedCache.Proofs.Shelf
import TaggedCache.Proofs.TagIndex

/-!
# The tag index answers like a plain map

Whatever is registered and unregistered, in any order and however often, the index tells of every key the tags
that it was last registered with, and its other answers and its sizes are those of this map (`Describes`). Each
call reports the tags of the former registration that no key carries after it, and reports them once
(`describes_registered`).
-/

namespace TaggedCache

theorem nodup_eraseDups {α : Type} [DecidableEq α] : (xs : List α) → xs.eraseDups.Nodup
  | [] => List.nodup_nil
  | x :: xs => by
    rw [List.eraseDups_cons]
    exact List.nodup_cons.mpr ⟨by simp [List.mem_eraseDups], nodup_eraseDups _⟩
  termination_by xs => xs.length
  decreasing_by exact Nat.lt_succ_of_le (List.length_filter_le _ _)

theorem Table.encard_eq_size {κ α : Type} [DecidableEq κ] (t : Table κ α) :
    {k | (t.get? k).isSome}.encard = t.size := by
  have hset : {k | (t.get? k).isSome} = (t.keys.toFinset : Set κ) := by
    rw [List.coe_toFinset]
    exact Set.ext fun k => Table.mem_keys_iff.symm
  have hkeys : t.keys.Nodup := t.nodup
  rw [hset, Set.encard_coe_eq_coe_finsetCard, List.toFinset_card_of_nodup hkeys]
  exact congrArg _ (List.length_map _)

namespace TagIndex

/-! ## The plain map -/

/-- The tags that each key is registered with. -/
abbrev Registered := String → Option TagSet

def Carried (r : Registered) (key : String) (tag : Tag) : Prop := ∃ tags, r key = some tags ∧ tag ∈ tags

inductive Call where
  | register (key : String) (tags : TagSet)
  | unregister (key : String)
  | clear

namespace Call

/-- What a call reports, and the index after it. -/
def apply : Call → TagIndex → List Tag × TagIndex
  | .register key tags, i => i.register key tags
  | .unregister key, i => i.unregister key
  | .clear, _ => ([], .empty)

/-- What a call does to the plain map. -/
def note : Call → Registered → Registered
  | .register key tags, r => Function.update r key (some tags)
  | .unregister key, r => Function.update r key none
  | .clear, _ => fun _ => none

/-- The key whose registration the call ends. -/
def key? : Call → Option String
  | .register key _ | .unregister key => some key
  | .clear => none

end Call

/-- The index after some calls. -/
def after (calls : List Call) : TagIndex := calls.foldl (fun i c => (c.apply i).2) .empty

/-- The plain map after some calls. -/
def registered (calls : List Call) : Registered := calls.foldl (fun r c => c.note r) fun _ => none

/-- What the index says about tags and keys is what a plain map says. -/
structure Describes (i : TagIndex) (r : Registered) : Prop where
  tagsForKey : ∀ key, i.tagsForKey key = r key
  keysForTags : ∀ tags, (i.keysForTags tags).Nodup ∧
    ∀ key, key ∈ i.keysForTags tags ↔ ∃ own, r key = some own ∧ own.Meets tags
  hasTag : ∀ tag, i.hasTag tag = true ↔ ∃ key, Carried r key tag
  tagCount : {tag | ∃ key, Carried r key tag}.encard = i.tagCount
  keyCount : {key | (r key).isSome}.encard = i.keyCount

variable {i : TagIndex} {key : String} {tags : TagSet} {tag : Tag}

theorem Sound.describes (h : i.Sound) : i.Describes i.tagsOf.get? where
  tagsForKey _ := rfl
  keysForTags tags := by
    refine ⟨nodup_eraseDups _, fun key => (mem_keysForTags h).trans ?_⟩
    constructor
    · rintro ⟨t, ht, own, hown, hmem⟩
      exact ⟨own, hown, t, hmem, ht⟩
    · rintro ⟨own, hown, t, hmem, ht⟩
      exact ⟨t, ht, own, hown, hmem⟩
  hasTag _ := hasTag_iff h
  tagCount := by
    have hset : {tag | ∃ key, i.Carries key tag} = {tag | (i.keysOf.get? tag).isSome} :=
      Set.ext fun tag => (hasTag_iff h).symm
    exact (congrArg Set.encard hset).trans (Table.encard_eq_size _)
  keyCount := Table.encard_eq_size _

/-! ## One call -/

theorem Sound.apply (h : i.Sound) (c : Call) : (c.apply i).2.Sound := by
  cases c with
  | register key tags => exact h.register key tags
  | unregister key => exact h.unregister key
  | clear => exact Sound.empty

theorem tagsOf_apply (c : Call) (i : TagIndex) : (c.apply i).2.tagsOf.get? = c.note i.tagsOf.get? := by
  funext k
  cases c with
  | register key tags =>
    simp only [Call.apply, Call.note, tagsOf_register, Function.update_apply, eq_comm (a := k)]
  | unregister key =>
    simp only [Call.apply, Call.note, tagsOf_unregister, Function.update_apply, eq_comm (a := k)]
  | clear => rfl

theorem detach_sublist (key : String) (ts : List Tag) (keysOf : Table Tag (List String)) :
    (detach key ts keysOf).1.Sublist ts := by
  induction ts generalizing keysOf with
  | nil => exact .slnil
  | cons t rest ih =>
    unfold detach
    split
    · exact (ih keysOf).cons t
    · split
      · exact (ih _).cons_cons t
      · exact (ih _).cons t

theorem nodup_orphans_unregister (i : TagIndex) (key : String) : (i.unregister key).1.Nodup := by
  unfold unregister
  split
  · exact List.nodup_nil
  · next tags _ => exact tags.nodup.sublist (detach_sublist key tags.toList i.keysOf)

theorem nodup_orphans (c : Call) (i : TagIndex) : (c.apply i).1.Nodup := by
  cases c with
  | register key tags => exact (nodup_orphans_unregister i key).filter _
  | unregister key => exact nodup_orphans_unregister i key
  | clear => exact List.nodup_nil

/-- A call reports the tags of the registration it ends, as far as nothing carries them after it. -/
theorem mem_orphans_iff (h : i.Sound) (c : Call) : tag ∈ (c.apply i).1 ↔
    (∃ key, c.key? = some key ∧ i.Carries key tag) ∧ ∀ key, ¬ (c.apply i).2.Carries key tag := by
  cases c with
  | register key tags =>
    show tag ∈ (i.register key tags).1 ↔ _ ∧ ∀ k, ¬ (i.register key tags).2.Carries k tag
    simp only [mem_orphans_register h, carries_register, Call.key?, Option.some.injEq, exists_eq_left']
    refine and_congr_right fun _ => ?_
    constructor
    · rintro ⟨hown, hothers⟩ k (⟨-, ht⟩ | ⟨hk, hc⟩)
      · exact hown ht
      · exact hothers k hk hc
    · exact fun hnone => ⟨fun ht => hnone key (.inl ⟨rfl, ht⟩), fun k hk hc => hnone k (.inr ⟨hk, hc⟩)⟩
  | unregister key =>
    show tag ∈ (i.unregister key).1 ↔ _ ∧ ∀ k, ¬ (i.unregister key).2.Carries k tag
    simp only [mem_orphans_unregister h, carries_unregister, Call.key?, Option.some.injEq, exists_eq_left',
      not_and]
  | clear => simp [Call.apply, Call.key?]

/-! ## Many calls -/

theorem sound_after (calls : List Call) : (after calls).Sound := by
  induction calls using List.reverseRecOn with
  | nil => exact Sound.empty
  | append_singleton calls c ih =>
    rw [after, List.foldl_append]
    exact ih.apply c

theorem tagsOf_after (calls : List Call) : (after calls).tagsOf.get? = registered calls :=
  (List.foldl_hom (fun i : TagIndex => i.tagsOf.get?) fun i c => (tagsOf_apply c i).symm).symm

/-- After any calls the index describes the plain map of what is registered. Each further call reports the tags
of the registration it ends that no key carries after it, each once. -/
theorem describes_registered (calls : List Call) :
    (after calls).Describes (registered calls) ∧
      ∀ c : Call, (c.apply (after calls)).1.Nodup ∧
        ∀ tag, tag ∈ (c.apply (after calls)).1 ↔
          (∃ key, c.key? = some key ∧ Carried (registered calls) key tag) ∧
            ∀ key, ¬ Carried (c.note (registered calls)) key tag := by
  have hsound := sound_after calls
  refine ⟨tagsOf_after calls ▸ hsound.describes, fun c => ⟨nodup_orphans c _, fun tag => ?_⟩⟩
  rw [← tagsOf_after, ← tagsOf_apply]
  exact mem_orphans_iff hsound c

end TagIndex
end TaggedCache
