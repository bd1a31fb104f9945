import Mathlib.Algebra.Group.Nat.Defs
import TaggedCache.Proofs.Memory

/-!
# Runs of a bin in memory

Whatever is asked of a bin in memory, in any order and however often, it answers like a plain store
(`runs_as_shelf`).
-/

namespace TaggedCache
namespace Memory

/-- What a call answers, and the bin after it. -/
def step : BinCall → Memory → Option Lookup × Memory
  | .set key item, m => (none, m.set key item)
  | .get now key, m => (some (m.get now key).1, (m.get now key).2)
  | .delete key, m => (none, m.delete key)
  | .invalidate tags, m => (none, m.invalidate tags)
  | .deleteTags tags, m => (none, m.deleteTags tags)
  | .clear, m => (none, m.clear)

/-- How many counters a call raises. -/
def increments (m : Memory) : BinCall → Nat
  | .invalidate tags => (m.raised tags).length
  | _ => 0

/-- How often counters are raised in a run. -/
def spent : List BinCall → Memory → Nat
  | [], _ => 0
  | c :: rest, m => m.increments c + spent rest (m.step c).2

theorem spent_append (calls more : List BinCall) (m : Memory) :
    spent (calls ++ more) m = spent calls m + spent more (BinCall.after step calls m) := by
  induction calls generalizing m with
  | nil => simp [spent]
  | cons c rest ih => rw [List.cons_append, spent, ih, spent, BinCall.after_cons, Nat.add_assoc]

variable {m : Memory} {n : Nat} {c : BinCall} {calls : List BinCall}

/-! ## One call -/

theorem Sound.step (h : m.Sound) (c : BinCall) : (m.step c).2.Sound := by
  cases c with
  | set key item => exact h.set key item
  | get now key => exact h.get now key
  | delete key => exact h.delete key
  | invalidate tags => exact h.invalidate tags
  | deleteTags tags => exact h.deleteTags tags
  | clear => exact Sound.clear m

theorem Within.step (h : m.Within n) (hm : m.Sound) (c : BinCall) :
    (m.step c).2.Within (n + m.increments c) := by
  cases c with
  | set key item => exact h.set hm key item
  | get now key => exact h.get hm now key
  | delete key => exact h.delete hm key
  | invalidate tags => exact h.invalidate tags
  | deleteTags tags => exact h.deleteTags hm tags
  | clear =>
    intro p hp
    cases hp

/-- A call does to the plain store what it does to the bin, and answers the same. -/
theorem view_step (h : m.Sound) (hw : m.Within n) (hn : n + m.increments c < UInt64.size) :
    ((m.step c).1, (m.step c).2.view) = m.view.step c := by
  cases c with
  | set key item => exact congrArg (Prod.mk none) (view_set h key item)
  | get now key =>
    show _ = (some (m.view.get now key).1, (m.view.get now key).2)
    rw [← view_get]
    rfl
  | delete key => exact congrArg (Prod.mk none) (view_delete h key)
  | invalidate tags => exact congrArg (Prod.mk none) (view_invalidate h hw tags hn)
  | deleteTags tags => exact congrArg (Prod.mk none) (view_deleteTags h tags)
  | clear => exact congrArg (Prod.mk none) (view_clear m)

/-! ## Many calls -/

theorem Sound.after (h : m.Sound) (calls : List BinCall) : (BinCall.after Memory.step calls m).Sound := by
  induction calls generalizing m with
  | nil => exact h
  | cons c rest ih => exact ih (h.step c)

theorem view_after (h : m.Sound) (hw : m.Within n) (hn : n + spent calls m < UInt64.size) :
    (BinCall.after step calls m).view = BinCall.after Shelf.step calls m.view := by
  induction calls generalizing m n with
  | nil => rfl
  | cons c rest ih =>
    rw [spent, ← Nat.add_assoc] at hn
    have hstep := congrArg Prod.snd (view_step (c := c) h hw (by omega))
    rw [BinCall.after_cons, BinCall.after_cons, ih (h.step c) (hw.step h c) hn]
    exact congrArg _ hstep

theorem answers_eq (h : m.Sound) (hw : m.Within n) (hn : n + spent calls m < UInt64.size) :
    BinCall.answers step size calls m = BinCall.answers Shelf.step Shelf.size calls m.view := by
  induction calls generalizing m n with
  | nil => rfl
  | cons c rest ih =>
    rw [spent, ← Nat.add_assoc] at hn
    have hstep := view_step (c := c) h hw (by omega)
    have hrest := ih (h.step c) (hw.step h c) hn
    have hsize := view_size (m.step c).2
    rw [BinCall.answers_cons, BinCall.answers_cons, ← hstep, hrest, hsize]

/-- What is left of a bin that started empty, as a plain store. -/
theorem view_run {name : String} {capacity : Nat} (hn : spent calls (new name capacity) < 2 ^ 64) :
    (BinCall.after step calls (new name capacity)).view =
      BinCall.after Shelf.step calls (.empty (roomFor capacity)) :=
  view_after (Sound.new name capacity) (Within.new name capacity) (Nat.zero_add _ ▸ hn)

theorem get_eq (now : UInt64) (key : String) (m : Memory) :
    (m.get now key).1 = (m.view.get now key).1 := congrArg Prod.fst (view_get now key m)

/-- What was just written is read back until it expires. -/
theorem get_of_set {key : String} {item : Item} {now : UInt64} (hs : m.Sound)
    (hz : item.maxAge ≠ .zero) (hx : item.isExpired now = false) :
    ((m.set key item).get now key).1 = .fresh item := by
  have hset : (m.view.set key item).Kept key item [] := Shelf.Kept.set_self m.capacity_pos hz
  have hcapacity : (m.view.set key item).capacity = m.capacity := Shelf.capacity_step m.view (.set key item)
  have hkept := hset.get now
  rw [← view_set hs, ← get_eq, if_neg (by simp [hx])] at hkept
  rcases hkept with hfresh | ⟨-, ks, -, hl, hk⟩
  · exact hfresh
  · -- Nothing was used in between, but something would have had to push the item out.
    rw [view_set hs, hcapacity] at hl
    obtain ⟨k, hmem⟩ := List.exists_mem_of_length_pos (hl ▸ m.capacity_pos)
    exact absurd (hk k hmem).2 (by simp)

/-- What is read fresh was written by a call that nothing has touched since. -/
theorem untouched_of_fresh {name key : String} {capacity : Nat} {calls : List BinCall} {now : UInt64}
    {item : Item} (hn : spent calls (new name capacity) < 2 ^ 64)
    (h : ((BinCall.after step calls (new name capacity)).get now key).1 = .fresh item) :
    Shelf.Untouched calls key item ∧ ¬ item.isExpired now := by
  rw [get_eq, view_run hn] at h
  exact (Shelf.vouched_after _ calls).of_fresh h

/-- A bin in memory answers every run like a plain store of its capacity, as long as fewer than `2 ^ 64`
counters are raised. In particular, what was invalidated is not fresh before its key is written again;
and what nothing touches stays fresh until it expires, unless as many other keys as there is room for
were used since. -/
theorem runs_as_shelf (name : String) {capacity : Nat} (hc : 0 < capacity) (calls : List BinCall)
    (hn : spent calls (new name capacity) < 2 ^ 64) :
    BinCall.answers step size calls (new name capacity) =
      BinCall.answers Shelf.step Shelf.size calls (.empty capacity) ∧
    (∀ before tags between now key e, calls = before ++ .invalidate tags :: between →
      Table.find key (BinCall.after step before (new name capacity)).entries = some e →
      e.item.tags.Meets tags → (∀ c ∈ between, ∀ item, ¬ c.Writes key item) →
      ((BinCall.after step calls (new name capacity)).get now key).1.isFresh = false) ∧
    (∀ before key item between now, calls = before ++ .set key item :: between →
      item.maxAge ≠ .zero → (∀ c ∈ between, ¬ c.Touches key item.tags) →
      ((BinCall.after step calls (new name capacity)).get now key).1 =
        (if item.isExpired now then .stale item else .fresh item) ∨
      (((BinCall.after step calls (new name capacity)).get now key).1 = .absent ∧
        ∃ ks : List String, ks.Nodup ∧ ks.length = capacity ∧
          ∀ k ∈ ks, k ≠ key ∧ k ∈ between.flatMap BinCall.uses)) := by
  have hroom : roomFor capacity = capacity := Nat.max_eq_left hc
  have hview := view_run hn
  rw [hroom] at hview
  have hdistinct : ∀ calls, (BinCall.after Shelf.step calls (.empty capacity)).Distinct :=
    Shelf.Distinct.after List.nodup_nil
  refine ⟨?_, ?_, ?_⟩
  · rw [answers_eq (Sound.new name capacity) (Within.new name capacity) (Nat.zero_add _ ▸ hn),
      view_new, hroom]
  · intro before tags between now key e hcalls he ht hw
    -- The bin before the invalidation is a plain store as well: a part of a run raises no more.
    have hbefore : spent before (new name capacity) < 2 ^ 64 := by
      rw [hcalls, spent_append] at hn
      omega
    have hb := view_run hbefore
    rw [hroom] at hb
    have hslot : slot (BinCall.after step before (new name capacity)).counters (key, e) ∈
        (BinCall.after Shelf.step before (.empty capacity)).slots := by
      rw [← hb]
      exact List.mem_map_of_mem ((Table.find_eq_some_iff ((Sound.new name capacity).after _).nodup).mp he)
    have hv := Shelf.vouched_ne_after
      (Shelf.vouched_ne_invalidate (hdistinct before) hslot ht) hw
    rw [get_eq, hview, hcalls, BinCall.after_append]
    exact Shelf.not_fresh_of_vouched hv now
  · intro before key item between now hcalls hz ht
    have hset : (Shelf.set key item (BinCall.after Shelf.step before (.empty capacity))).Kept key item [] :=
      Shelf.Kept.set_self (by rw [Shelf.capacity_after]; exact hc) hz
    have hkept := hset.after ((hdistinct before).step (.set key item)) ht
    rw [List.nil_append] at hkept
    have hall : BinCall.after Shelf.step calls (.empty capacity) = BinCall.after Shelf.step between
        (Shelf.set key item (BinCall.after Shelf.step before (.empty capacity))) := by
      rw [hcalls, BinCall.after_append]
      rfl
    have hget := hkept.get now
    rw [← hall, Shelf.capacity_after] at hget
    rw [get_eq, hview]
    exact hget

/-- Two items share a tag that is invalidated, and one of them is written again: only that one is
fresh. -/
theorem runs_as_shelf_shared_tag :
    let tags : TagSet := ⟨[⟨"t", by decide⟩], by simp⟩
    let item : Item := ⟨[1], tags, .permanent, 0⟩
    let before : List BinCall := [.set "a" item, .set "b" item]
    let calls := before ++ [.invalidate tags, .set "a" item, .get 0 "a", .get 0 "b"]
    0 < 2 ∧ spent calls (new "page" 2) < 2 ^ 64 ∧
      BinCall.answers step size calls (new "page" 2) =
        [(none, 1), (none, 2), (none, 2), (none, 2), (some (.fresh item), 2), (some (.stale item), 2)] ∧
      ((BinCall.after step calls (new "page" 2)).get 0 "b").1.isFresh = false ∧
      ((BinCall.after step calls (new "page" 2)).get 0 "a").1 = .fresh item := by
  intro tags item before calls
  have hn : spent calls (new "page" 2) < 2 ^ 64 := by decide
  obtain ⟨hanswers, hstale, hkept⟩ := runs_as_shelf "page" (by decide) calls hn
  refine ⟨by decide, hn, ?_, ?_, ?_⟩
  · rw [hanswers]
    decide
  · exact hstale before tags [.set "a" item, .get 0 "a", .get 0 "b"] 0 "b" ⟨item, 0⟩ rfl (by decide)
      (by decide) (by simp [BinCall.Writes])
  · rcases hkept (before ++ [.invalidate tags]) "a" item [.get 0 "a", .get 0 "b"] 0 rfl (by decide)
      (by simp [BinCall.Touches]) with hfresh | ⟨-, ks, hks, hl, hother⟩
    · exact hfresh
    · -- Only one other key was used, and there is room for two items.
      obtain ⟨k, l, rfl⟩ := List.length_eq_two.mp hl
      have hk := hother k (by simp)
      have hl := hother l (by simp)
      simp_all [BinCall.uses]

end Memory
end TaggedCache
