import Mathlib.Data.ENat.Lattice
import Mathlib.Data.List.Induction
import Mathlib.Data.List.Perm.Basic
import TaggedCache.Proofs.Collector
import TaggedCache.Proofs.Tag

/-!
# What a composite inherits

Adding a part is associative (`addPart_assoc`), so a composite does not depend on how its parts are grouped
(`compose_map_compose`). Each field has a law of its own: the contexts of the parts, each where it first comes
(`keys_compose`), the union of the tags, the least of the ages. `compose_homomorphic` puts them together.
-/

namespace TaggedCache

/-! ## Ages -/

namespace MaxAge

/-- The age in seconds, infinite when permanent. -/
def limit : MaxAge → ℕ∞
  | .permanent => ⊤
  | .seconds n => n.toNat

theorem limit_injective : Function.Injective limit := by
  intro a b h
  cases a with
  | permanent =>
    cases b with
    | permanent => rfl
    | seconds n => exact absurd h.symm (ENat.natCast_ne_top _)
  | seconds m =>
    cases b with
    | permanent => exact absurd h (ENat.natCast_ne_top _)
    | seconds n => rw [UInt32.toNat_inj.mp (ENat.natCast_inj.mp h)]

theorem limit_min (a b : MaxAge) : (a.min b).limit = Min.min a.limit b.limit := by
  cases a with
  | permanent =>
    cases b with
    | permanent => rfl
    | seconds n => exact (top_inf_eq _).symm
  | seconds m =>
    cases b with
    | permanent => exact (inf_top_eq _).symm
    | seconds n =>
      have hle : ∀ {k l : UInt32}, k ≤ l → (k.toNat : ℕ∞) ≤ l.toNat := fun h => by exact_mod_cast h
      by_cases hlt : m < n
      · have hc : compare (seconds m) (seconds n) = .lt := by simp [compare, hlt]
        simp only [MaxAge.min, hc]
        exact (min_eq_left (hle (UInt32.le_of_lt hlt))).symm
      · by_cases heq : m = n
        · subst heq
          have hc : compare (seconds m) (seconds m) = .eq := by simp [compare]
          simp only [MaxAge.min, hc]
          exact (min_self _).symm
        · have hc : compare (seconds m) (seconds n) = .gt := by simp [compare, hlt, heq]
          simp only [MaxAge.min, hc]
          exact (min_eq_right (hle (UInt32.not_lt.mp hlt))).symm

theorem min_assoc (a b c : MaxAge) : (a.min b).min c = a.min (b.min c) := by
  apply limit_injective
  rw [limit_min, limit_min, limit_min, limit_min, inf_assoc]

theorem min_permanent (a : MaxAge) : a.min .permanent = a := by
  apply limit_injective
  rw [limit_min]
  exact inf_top_eq _

end MaxAge

/-! ## Tags -/

theorem TagSet.not_mem_empty {t : Tag} : t ∉ TagSet.empty := List.not_mem_nil

theorem TagSet.union_empty (s : TagSet) : s ∪ .empty = s :=
  eq_of_mem_iff fun _ => mem_union.trans (or_iff_left not_mem_empty)

theorem TagSet.union_assoc (s u v : TagSet) : s ∪ u ∪ v = s ∪ (u ∪ v) := by
  refine eq_of_mem_iff fun t => ?_
  rw [mem_union, mem_union, mem_union, mem_union, or_assoc]

namespace Metadata

variable {keys more ps : List KeyPart} {p : KeyPart} {m : Metadata} {parts others : List Metadata} {t : Tag}

/-! ## Keys -/

theorem addContexts_append (keys ps qs : List KeyPart) :
    addContexts keys (ps ++ qs) = addContexts (addContexts keys ps) qs := by
  induction ps generalizing keys with
  | nil => rfl
  | cons p rest ih =>
    rw [List.cons_append, addContexts, addContexts]
    split
    · exact ih _
    · exact ih _

theorem mem_addContexts : p ∈ addContexts keys ps ↔ p ∈ keys ∨ p.isContext = true ∧ p ∈ ps := by
  induction ps generalizing keys with
  | nil => simp [addContexts]
  | cons q rest ih =>
    rw [addContexts]
    split
    · next hq =>
      rw [ih, List.mem_append, List.mem_singleton, List.mem_cons]
      constructor
      · rintro ((hp | rfl) | ⟨hc, hp⟩)
        · exact .inl hp
        · exact .inr ⟨hq.1, .inl rfl⟩
        · exact .inr ⟨hc, .inr hp⟩
      · rintro (hp | ⟨hc, rfl | hp⟩)
        · exact .inl (.inl hp)
        · exact .inl (.inr rfl)
        · exact .inr ⟨hc, hp⟩
    · next hq =>
      rw [ih, List.mem_cons]
      constructor
      · exact Or.imp id fun ⟨hc, hp⟩ => ⟨hc, .inr hp⟩
      · rintro (hp | ⟨hc, rfl | hp⟩)
        · exact .inl hp
        · exact .inl (Decidable.byContradiction fun hn => hq ⟨hc, hn⟩)
        · exact .inr ⟨hc, hp⟩

theorem nodup_addContexts (h : keys.Nodup) : (addContexts keys ps).Nodup := by
  induction ps generalizing keys with
  | nil => exact h
  | cons p rest ih =>
    rw [addContexts]
    split
    · next hp =>
      refine ih (List.nodup_append.mpr ⟨h, List.nodup_singleton p, fun q hq r hr he => hp.2 ?_⟩)
      rw [← List.mem_singleton.mp hr, ← he]
      exact hq
    · exact ih h

theorem addContexts_assoc (keys more ps : List KeyPart) :
    addContexts keys (addContexts more ps) = addContexts (addContexts keys more) ps := by
  induction ps generalizing more with
  | nil => rfl
  | cons p rest ih =>
    rw [addContexts]
    split
    · rw [ih, addContexts_append, ← addContexts_append]
      rfl
    · next hp =>
      -- What is no news to `more` is none to what holds the contexts of `more`.
      have hold : ¬ (p.isContext = true ∧ p ∉ addContexts keys more) := by
        rintro ⟨hc, hn⟩
        exact hn (mem_addContexts.mpr (.inr ⟨hc, Decidable.byContradiction fun hm => hp ⟨hc, hm⟩⟩))
      rw [ih, addContexts, if_neg hold]

/-- The contexts that are added are those that are new, each where it first comes. -/
theorem addContexts_context (tokens : List String) (ps : List KeyPart) :
    addContexts (tokens.map .context) ps =
      (tokens ++ ((ps.filterMap KeyPart.token?).filter fun t => t ∉ tokens).eraseDups).map .context := by
  induction ps generalizing tokens with
  | nil => simp [addContexts]
  | cons p rest ih =>
    cases p with
    | literal s => exact ih tokens
    | context t =>
      have hmem : KeyPart.context t ∈ tokens.map .context ↔ t ∈ tokens := by simp
      have htoken :
          (KeyPart.context t :: rest).filterMap KeyPart.token? = t :: rest.filterMap KeyPart.token? := rfl
      rw [addContexts, htoken]
      by_cases ht : t ∈ tokens
      · rw [if_neg fun h => h.2 (hmem.mpr ht), ih, List.filter_cons_of_neg (by simpa using ht)]
      · have hnew : tokens.map KeyPart.context ++ [.context t] = (tokens ++ [t]).map .context := by simp
        rw [if_pos ⟨rfl, fun h => ht (hmem.mp h)⟩, hnew, ih, List.filter_cons_of_pos (by simpa using ht),
          List.eraseDups_cons, List.filter_filter, List.append_assoc]
        -- Behind the new token it is no news any more, so the rest is searched without it.
        have hlater : (fun u => decide (u ∉ tokens ++ [t])) = fun u => !(u == t) && decide (u ∉ tokens) := by
          funext u
          by_cases hu : u = t <;> simp [hu]
        rw [hlater]
        rfl

/-! ## Adding parts one after another -/

theorem addPart_assoc (m a b : Metadata) : (m.addPart a).addPart b = m.addPart (a.addPart b) := by
  unfold addPart
  congr 1
  · exact (addContexts_assoc _ _ _).symm
  · exact TagSet.union_assoc _ _ _
  · exact MaxAge.min_assoc _ _ _
  · exact Bool.and_assoc _ _ _

theorem addPart_empty (m : Metadata) : m.addPart empty = m := by
  obtain ⟨keys, tags, maxAge, cacheable⟩ := m
  unfold addPart empty
  congr 1
  · exact tags.union_empty
  · exact maxAge.min_permanent
  · exact Bool.and_true cacheable

theorem addPart_compose (m : Metadata) (parts : List Metadata) :
    m.addPart (compose parts) = parts.foldl addPart m := by
  induction parts using List.reverseRecOn with
  | nil => exact addPart_empty m
  | append_singleton parts p ih =>
    rw [compose, List.foldl_append, List.foldl_append, ← ih, ← compose]
    exact (addPart_assoc m (compose parts) p).symm

theorem foldl_compose (m : Metadata) (groups : List (List Metadata)) :
    (groups.map compose).foldl addPart m = groups.flatten.foldl addPart m := by
  induction groups generalizing m with
  | nil => rfl
  | cons parts rest ih =>
    rw [List.map_cons, List.foldl_cons, addPart_compose, ih, List.flatten_cons, List.foldl_append]

theorem compose_map_compose (groups : List (List Metadata)) :
    compose (groups.map compose) = compose groups.flatten := foldl_compose empty groups

/-! ## The fields of a composite -/

theorem keys_foldl (m : Metadata) (parts : List Metadata) :
    (parts.foldl addPart m).keys = addContexts m.keys (parts.flatMap Metadata.keys) := by
  induction parts generalizing m with
  | nil => rfl
  | cons p rest ih =>
    rw [List.foldl_cons, ih, List.flatMap_cons, addContexts_append]
    rfl

theorem keys_compose (parts : List Metadata) :
    (compose parts).keys = (parts.flatMap contexts).eraseDups.map .context := by
  have hnone : ∀ ts : List String, ts.filter (fun t => t ∉ []) = ts := by simp
  have h := addContexts_context [] (parts.flatMap Metadata.keys)
  rw [List.nil_append, hnone, List.filterMap_flatMap] at h
  rw [compose, keys_foldl]
  exact h

theorem nodup_keys_compose (parts : List Metadata) : (compose parts).keys.Nodup := by
  rw [compose, keys_foldl]
  exact nodup_addContexts List.nodup_nil

theorem mem_keys_compose : p ∈ (compose parts).keys ↔ p.isContext = true ∧ ∃ part ∈ parts, p ∈ part.keys := by
  rw [compose, keys_foldl, mem_addContexts, List.mem_flatMap]
  exact or_iff_right List.not_mem_nil

theorem mem_tags_foldl : t ∈ (parts.foldl addPart m).tags ↔ t ∈ m.tags ∨ ∃ part ∈ parts, t ∈ part.tags := by
  induction parts generalizing m with
  | nil => simp
  | cons p rest ih =>
    have hp : t ∈ (m.addPart p).tags ↔ t ∈ m.tags ∨ t ∈ p.tags := TagSet.mem_union
    rw [List.foldl_cons, ih, hp, List.exists_mem_cons_iff, or_assoc]

theorem mem_tags_compose : t ∈ (compose parts).tags ↔ ∃ part ∈ parts, t ∈ part.tags :=
  mem_tags_foldl.trans (or_iff_right TagSet.not_mem_empty)

theorem limit_foldl (m : Metadata) (parts : List Metadata) : (parts.foldl addPart m).maxAge.limit =
    min m.maxAge.limit ((parts.map fun part => part.maxAge.limit).foldr min ⊤) := by
  induction parts generalizing m with
  | nil => exact (inf_top_eq _).symm
  | cons p rest ih =>
    have hp : (m.addPart p).maxAge.limit = min m.maxAge.limit p.maxAge.limit := MaxAge.limit_min _ _
    rw [List.foldl_cons, ih, hp, inf_assoc]
    rfl

theorem limit_compose (parts : List Metadata) :
    (compose parts).maxAge.limit = (parts.map fun part => part.maxAge.limit).foldr min ⊤ :=
  (limit_foldl empty parts).trans (top_inf_eq _)

/-- A flag that a sum has when both summands have it. -/
theorem flag_foldl {flag : Metadata → Bool} (h : ∀ m p, flag (m.addPart p) = (flag m && flag p)) (m : Metadata)
    (parts : List Metadata) : flag (parts.foldl addPart m) = (flag m && parts.all flag) := by
  induction parts generalizing m with
  | nil => exact (Bool.and_true _).symm
  | cons p rest ih => rw [List.foldl_cons, ih, h, List.all_cons, Bool.and_assoc]

theorem cacheable_compose (parts : List Metadata) : (compose parts).cacheable = parts.all cacheable :=
  flag_foldl (fun _ _ => rfl) empty parts

theorem shouldStore_compose (parts : List Metadata) : (compose parts).shouldStore = parts.all shouldStore :=
  flag_foldl shouldStore_addPart empty parts

/-! ## The order of the parts -/

theorem keys_compose_perm (h : parts.Perm others) : (compose parts).keys.Perm (compose others).keys := by
  refine (List.perm_ext_iff_of_nodup (nodup_keys_compose _) (nodup_keys_compose _)).mpr fun p => ?_
  rw [mem_keys_compose, mem_keys_compose]
  simp only [h.mem_iff]

theorem tags_compose_perm (h : parts.Perm others) : (compose parts).tags = (compose others).tags := by
  refine TagSet.eq_of_mem_iff fun t => ?_
  rw [mem_tags_compose, mem_tags_compose]
  simp only [h.mem_iff]

theorem maxAge_compose_perm (h : parts.Perm others) : (compose parts).maxAge = (compose others).maxAge := by
  apply MaxAge.limit_injective
  rw [limit_compose, limit_compose]
  exact (h.map _).foldr_eq _

theorem cacheable_compose_perm (h : parts.Perm others) :
    (compose parts).cacheable = (compose others).cacheable := by
  rw [cacheable_compose, cacheable_compose]
  exact h.all_eq

/-- A composite of composites is the composite of all parts. The order of the parts matters to no field but the
keys, and to these only for their own order. -/
theorem compose_homomorphic :
    (∀ groups : List (List Metadata), compose (groups.map compose) = compose groups.flatten) ∧
    (∀ parts others : List Metadata, parts.Perm others →
      (compose parts).tags = (compose others).tags ∧ (compose parts).maxAge = (compose others).maxAge ∧
      (compose parts).cacheable = (compose others).cacheable ∧ (compose parts).keys.Perm (compose others).keys) ∧
    ∀ parts : List Metadata,
      (compose parts).keys = (parts.flatMap contexts).eraseDups.map .context ∧
      (compose parts).keys.Nodup ∧
      (∀ t, t ∈ (compose parts).tags ↔ ∃ part ∈ parts, t ∈ part.tags) ∧
      (compose parts).maxAge.limit = (parts.map fun part => part.maxAge.limit).foldr min ⊤ ∧
      (compose parts).cacheable = parts.all cacheable ∧
      ((compose parts).shouldStore = true ↔ ∀ part ∈ parts, part.shouldStore = true) := by
  refine ⟨compose_map_compose, fun parts others h => ?_, fun parts => ?_⟩
  · exact ⟨tags_compose_perm h, maxAge_compose_perm h, cacheable_compose_perm h, keys_compose_perm h⟩
  · refine ⟨keys_compose parts, nodup_keys_compose parts, fun t => mem_tags_compose, limit_compose parts,
      cacheable_compose parts, ?_⟩
    rw [shouldStore_compose, List.all_eq_true]

theorem compose_homomorphic_swap :
    let head : Metadata := ⟨[.literal "head", .context "user"], .ofList [⟨"user:1", by decide⟩], .seconds 60, true⟩
    let body : Metadata := ⟨[.context "languages", .context "user"], .empty, .permanent, true⟩
    [head, body].Perm [body, head] ∧ (compose [head, body]).keys = [.context "user", .context "languages"] ∧
      (compose [body, head]).keys = [.context "languages", .context "user"] ∧
      (compose [head, body]).maxAge = (compose [body, head]).maxAge := by
  intro head body
  have hperm : [head, body].Perm [body, head] := .swap _ _ _
  exact ⟨hperm, by decide, by decide, (compose_homomorphic.2.1 _ _ hperm).2.1⟩

end Metadata
end TaggedCache
