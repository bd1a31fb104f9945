import Mathlib.Logic.Function.Basic
import TaggedCache.Proofs.MemoryRun

/-!
# Reads that are interrupted

A read of a bin in memory has two halves, and other calls may come between them: it finds an entry,
and later it compares the sum in the entry with the counters of that time. Between the halves a
counter may be dropped, because the last item with its tag leaves, and then the sums may agree again
although the item was invalidated before the read began (`stale_read`). This is the only way
(`orphaned_of_stale_read`): as long as every tag of the item is carried by some item, no counter of
it goes back. A read that nothing interrupts is safe (`not_fresh_of_undivided`).
-/

namespace TaggedCache
namespace Memory

variable {m : Memory} {key : String} {item : Item} {tags : TagSet} {t : Tag} {c : BinCall} {n w : Nat}

theorem judge_fresh {now : UInt64} {found : Option Entry} (h : (m.judge now found).1 = .fresh item) :
    ∃ e, found = some e ∧ e.item = item ∧ e.checksum = checksum m.counters item.tags := by
  unfold judge at h
  split at h
  · cases h
  · next e =>
    split at h
    · cases h
    · next hworth =>
      obtain rfl := Lookup.fresh.inj h
      exact ⟨e, rfl, rfl, Classical.not_not.mp fun hne => hworth (.inr hne)⟩

/-! ## Counters of carried tags -/

/-- Some stored item has the tag. -/
def Carried (m : Memory) (t : Tag) : Prop := ∃ p ∈ m.entries, t ∈ p.2.item.tags.toList

theorem Carried.of_delete (h : (m.delete key).Carried t) : m.Carried t := by
  obtain ⟨p, hp, ht⟩ := h
  exact ⟨p, (List.mem_filter.mp hp).1, ht⟩

theorem get?_delete (h : m.Sound) (ht : (m.delete key).Carried t) :
    (m.delete key).counters.get? t = m.counters.get? t := by
  obtain ⟨p, hp, hpt⟩ := ht
  have ⟨hmem, hk⟩ := List.mem_filter.mp hp
  show (forget (m.index.unregister key).1 m.counters).get? t = _
  rw [get?_forget, if_neg]
  rw [TagIndex.mem_orphans_unregister h.index]
  exact fun ho => ho.2 p.1 (of_decide_eq_true hk) ((h.carries hmem).mpr hpt)

theorem get?_place (h : m.Sound) (ht : (m.place key item).Carried t) :
    (m.place key item).counters.get? t = m.counters.get? t := by
  obtain ⟨p, hp, hpt⟩ := ht
  show (forget (m.index.register key item.tags).1 m.counters).get? t = _
  rw [get?_forget, if_neg]
  rw [TagIndex.mem_orphans_register h.index]
  rintro ⟨-, hnew, hothers⟩
  rcases List.mem_cons.mp hp with rfl | hp
  · exact hnew hpt
  · have ⟨hmem, hk⟩ := List.mem_filter.mp hp
    exact hothers p.1 (of_decide_eq_true hk) ((h.carries hmem).mpr hpt)

theorem get?_set (h : m.Sound) (ht : (m.set key item).Carried t) :
    (m.set key item).counters.get? t = m.counters.get? t := by
  by_cases hz : item.maxAge = .zero
  · have : m.set key item = m := by simp [Memory.set, MaxAge.isZero, hz]
    rw [this]
  · rcases set_eq h hz with ⟨-, he⟩ | ⟨p, -, -, he⟩
    · rw [he] at ht ⊢
      exact get?_place h ht
    · have ht' : ((m.place key item).delete p.1).Carried t := by
        rw [he] at ht
        exact ht
      rw [he]
      exact (get?_delete (h.place key item) ht').trans (get?_place h ht'.of_delete)

theorem get?_deleteTags (h : m.Sound) (ht : (m.deleteTags tags).Carried t) :
    (m.deleteTags tags).counters.get? t = m.counters.get? t := by
  have hall : ∀ (keys : List String) {m : Memory}, m.Sound →
      (keys.foldl (fun m key => m.delete key) m).Carried t → m.Carried t ∧
        (keys.foldl (fun m key => m.delete key) m).counters.get? t = m.counters.get? t := by
    intro keys
    induction keys with
    | nil => exact fun _ ht => ⟨ht, rfl⟩
    | cons key rest ih =>
      intro m h ht
      have ⟨hcarried, hrest⟩ := ih (h.delete key) ht
      exact ⟨hcarried.of_delete, hrest.trans (get?_delete h hcarried)⟩
  exact (hall _ h ht).2

/-- When every tag is carried after a call, the sum has grown by what the call raised. -/
theorem checksum_step (h : m.Sound) (c : BinCall)
    (hc : ∀ t ∈ tags.toList, (m.step c).2.Carried t) :
    ∃ j ≤ m.increments c,
      checksum (m.step c).2.counters tags = checksum m.counters tags + UInt64.ofNat j := by
  have hsame : (∀ t ∈ tags.toList, (m.step c).2.counters.get? t = m.counters.get? t) →
      ∃ j ≤ m.increments c,
        checksum (m.step c).2.counters tags = checksum m.counters tags + UInt64.ofNat j :=
    fun hsum => ⟨0, Nat.zero_le _, by simpa using checksum_congr hsum⟩
  cases c with
  | set key item => exact hsame fun t ht => get?_set h (hc t ht)
  | get now key =>
    refine hsame fun t _ => ?_
    show (judge now (m.find key).1 (m.find key).2).2.counters.get? t = _
    rw [judge_fields, find_counters]
  | delete key => exact hsame fun t ht => get?_delete h (hc t ht)
  | invalidate named =>
    exact ⟨(m.raised named).countP (· ∈ tags.toList), List.countP_le_length,
      checksum_bumps (m.raised named) m.counters tags⟩
  | deleteTags named => exact hsame fun t ht => get?_deleteTags h (hc t ht)
  | clear =>
    refine hsame fun t ht => ?_
    obtain ⟨p, hp, -⟩ := hc t ht
    cases hp

/-! ## Steps -/

/-- A bin with the reads that are under way, and what each of them has found. -/
structure Shared where
  bin : Memory
  reads : Nat → Option (Option Entry)

/-- An empty bin that nobody reads. -/
def Shared.new (name : String) (capacity : Nat) : Shared := ⟨Memory.new name capacity, fun _ => none⟩

/-- What happens to a bin: a whole call, or one half of a read. -/
inductive Act where
  | call (c : BinCall)
  | find (reader : Nat) (key : String)
  | judge (reader : Nat) (now : UInt64) (answer : Lookup)

namespace Act

/-- The act writes an item under the key. -/
def Writes (key : String) (item : Item) : Act → Prop
  | call c => c.Writes key item
  | _ => False

/-- What an act means for a plain store. The first half of a read moves an item to the front. -/
def calls : Act → List BinCall
  | call c => [c]
  | find _ key => [.get 0 key]
  | judge _ _ _ => []

variable {key : String} {acts : List Act}

theorem not_writes_calls (h : ∀ a ∈ acts, ∀ i, ¬ a.Writes key i) :
    ∀ c ∈ acts.flatMap calls, ∀ i, ¬ c.Writes key i := by
  intro c hc i hwrite
  obtain ⟨a, ha, hc⟩ := List.mem_flatMap.mp hc
  cases a with
  | call d => exact h _ ha i (List.mem_singleton.mp hc ▸ hwrite)
  | find r k =>
    obtain rfl := List.mem_singleton.mp hc
    cases hwrite.1
  | judge r now answer => cases hc

end Act

/-- An act leads from one state to another and raises some counters. -/
inductive Step : Shared → Act → Nat → Shared → Prop where
  | call (s : Shared) (c : BinCall) :
      Step s (.call c) (s.bin.increments c) { s with bin := (s.bin.step c).2 }
  | find {s : Shared} {reader : Nat} (key : String) (hr : s.reads reader = none) :
      Step s (.find reader key) 0
        ⟨(s.bin.find key).2, Function.update s.reads reader (some (s.bin.find key).1)⟩
  | judge {s : Shared} {reader : Nat} {found : Option Entry} {now : UInt64} {answer : Lookup}
      (hr : s.reads reader = some found) (ha : (s.bin.judge now found).1 = answer) :
      Step s (.judge reader now answer) 0
        ⟨(s.bin.judge now found).2, Function.update s.reads reader none⟩

/-- Acts one after another, and how many counters they raise in all. -/
inductive Runs : Shared → List Act → Nat → Shared → Prop where
  | nil (s : Shared) : Runs s [] 0 s
  | cons {s u v : Shared} {a : Act} {acts : List Act} {k l : Nat} (hstep : Step s a k u)
      (hrest : Runs u acts l v) : Runs s (a :: acts) (k + l) v

variable {s u v : Shared} {a : Act} {acts more : List Act} {r : Nat} {now : UInt64}

theorem Runs.of_append (h : Runs s (acts ++ more) n v) :
    ∃ u k l, Runs s acts k u ∧ Runs u more l v ∧ n = k + l := by
  induction acts generalizing s n with
  | nil => exact ⟨s, 0, n, .nil s, h, (Nat.zero_add n).symm⟩
  | cons a rest ih =>
    cases h with
    | cons hstep hrest =>
      obtain ⟨u, k, l, hacts, hmore, rfl⟩ := ih hrest
      exact ⟨u, _, l, .cons hstep hacts, hmore, (Nat.add_assoc _ _ _).symm⟩

theorem Runs.append {l : Nat} (h : Runs s acts n u) (hmore : Runs u more l v) :
    Runs s (acts ++ more) (n + l) v := by
  induction h with
  | nil s => simpa using hmore
  | cons hstep _ ih =>
    rw [Nat.add_assoc]
    exact .cons hstep (ih hmore)

theorem Runs.of_find (h : Runs s [.find r key] n u) : s.reads r = none ∧ n = 0 ∧
    u = ⟨(s.bin.find key).2, Function.update s.reads r (some (s.bin.find key).1)⟩ := by
  cases h with
  | cons hstep hnil =>
    cases hnil
    cases hstep with
    | find _ hr => exact ⟨hr, rfl, rfl⟩

theorem Runs.of_judge {answer : Lookup} (h : Runs s [.judge r now answer] n u) :
    ∃ found, s.reads r = some found ∧ n = 0 ∧ (s.bin.judge now found).1 = answer ∧
      u = ⟨(s.bin.judge now found).2, Function.update s.reads r none⟩ := by
  cases h with
  | cons hstep hnil =>
    cases hnil
    cases hstep with
    | judge hr ha => exact ⟨_, hr, rfl, ha, rfl⟩

/-! ## What every act keeps -/

theorem Step.sound (hstep : Step s a n u) (h : s.bin.Sound) : u.bin.Sound := by
  cases hstep with
  | call c => exact h.step c
  | find key hr => exact h.find key
  | judge hr ha =>
    show (Memory.judge _ _ _).2.Sound
    rw [judge_fields]
    exact ⟨h.nodup, h.index, h.tagsOf, h.counted⟩

theorem Step.within (hstep : Step s a n u) (h : s.bin.Sound) (hw : s.bin.Within w) :
    u.bin.Within (w + n) := by
  cases hstep with
  | call c => exact hw.step h c
  | find key hr =>
    have hget := hw.get h 0 key
    show (s.bin.find key).2.Within w
    unfold Memory.get at hget
    rw [judge_fields] at hget
    exact hget
  | judge hr ha =>
    show (Memory.judge _ _ _).2.Within w
    rw [judge_fields]
    exact hw

theorem Step.view (hstep : Step s a n u) (h : s.bin.Sound) (hw : s.bin.Within w)
    (hn : w + n < UInt64.size) : u.bin.view = BinCall.after Shelf.step a.calls s.bin.view := by
  cases hstep with
  | call c => exact congrArg Prod.snd (view_step h hw hn)
  | find key hr =>
    have hget := congrArg Prod.snd (view_get 0 key s.bin)
    unfold Memory.get at hget
    rw [judge_fields] at hget
    exact hget
  | judge hr ha =>
    show (Memory.judge _ _ _).2.view = _
    rw [judge_fields]
    rfl

theorem Step.reads (hstep : Step s a n u) {found : Option Entry} (hr : s.reads r = some found)
    (ha : ∀ now answer, a ≠ .judge r now answer) : u.reads r = some found := by
  cases hstep with
  | call c => exact hr
  | @find reader key hfree =>
    have hne : r ≠ reader := by
      rintro rfl
      rw [hr] at hfree
      cases hfree
    exact (Function.update_of_ne hne _ _).trans hr
  | @judge reader _ now answer _ _ =>
    have hne : r ≠ reader := by
      rintro rfl
      exact ha now answer rfl
    exact (Function.update_of_ne hne _ _).trans hr

theorem Runs.sound (hrun : Runs s acts n u) (h : s.bin.Sound) : u.bin.Sound := by
  induction hrun with
  | nil s => exact h
  | cons hstep _ ih => exact ih (hstep.sound h)

theorem Runs.within (hrun : Runs s acts n u) (h : s.bin.Sound) (hw : s.bin.Within w) :
    u.bin.Within (w + n) := by
  induction hrun generalizing w with
  | nil s => exact hw
  | cons hstep _ ih =>
    rw [← Nat.add_assoc]
    exact ih (hstep.sound h) (hstep.within h hw)

theorem Runs.view (hrun : Runs s acts n u) (h : s.bin.Sound) (hw : s.bin.Within w)
    (hn : w + n < UInt64.size) :
    u.bin.view = BinCall.after Shelf.step (acts.flatMap Act.calls) s.bin.view := by
  induction hrun generalizing w with
  | nil s => rfl
  | cons hstep _ ih =>
    rw [← Nat.add_assoc] at hn
    rw [List.flatMap_cons, BinCall.after_append, ← hstep.view h hw (by omega)]
    exact ih (hstep.sound h) (hstep.within h hw) hn

theorem Runs.reads (hrun : Runs s acts n u) {found : Option Entry} (hr : s.reads r = some found)
    (ha : ∀ now answer, .judge r now answer ∉ acts) : u.reads r = some found := by
  induction hrun with
  | nil s => exact hr
  | cons hstep _ ih =>
    refine ih (hstep.reads hr ?_) fun now answer hm => ha now answer (List.mem_cons_of_mem _ hm)
    exact fun now answer he => ha now answer (he ▸ List.mem_cons_self)

/-- Over a run the sum of some tags grows by what was raised, unless one of the tags is carried by no
item at some moment. -/
theorem Runs.grows_or_orphans (hrun : Runs s acts n u) (h : s.bin.Sound) (tags : TagSet) :
    (∃ j ≤ n, checksum u.bin.counters tags = checksum s.bin.counters tags + UInt64.ofNat j) ∨
    ∃ first rest k v, acts = first ++ rest ∧ Runs s first k v ∧
      ∃ t ∈ tags.toList, ¬ v.bin.Carried t := by
  induction hrun with
  | nil s => exact .inl ⟨0, Nat.le_refl 0, by simp⟩
  | @cons s u v a acts k l hstep _ ih =>
    by_cases hc : ∀ t ∈ tags.toList, u.bin.Carried t
    · have hone : ∃ j ≤ k,
          checksum u.bin.counters tags = checksum s.bin.counters tags + UInt64.ofNat j := by
        cases hstep with
        | call c => exact checksum_step h c hc
        | find key hr =>
          refine ⟨0, Nat.zero_le _, ?_⟩
          show checksum (s.bin.find key).2.counters tags = _
          rw [find_counters]
          simp
        | judge hr ha =>
          refine ⟨0, Nat.zero_le _, ?_⟩
          show checksum (Memory.judge _ _ _).2.counters tags = _
          rw [judge_fields]
          simp
      rcases ih (hstep.sound h) with ⟨i, hi, hsum⟩ | ⟨first, rest, x, y, rfl, hfirst, horphan⟩
      · obtain ⟨j, hj, hone⟩ := hone
        refine .inl ⟨j + i, Nat.add_le_add hj hi, ?_⟩
        rw [hsum, hone, UInt64.ofNat_add, UInt64.add_assoc]
      · exact .inr ⟨a :: first, rest, _, y, rfl, .cons hstep hfirst, horphan⟩
    · simp only [not_forall] at hc
      obtain ⟨t, ht, hnot⟩ := hc
      exact .inr ⟨[a], acts, _, u, rfl, .cons hstep (.nil u), t, ht, hnot⟩

/-! ## Reads of what was invalidated before -/

/-- An item is written, a tag is invalidated, and later a read of the item's key begins. -/
def lateRead (before : List Act) (key : String) (item : Item) (between : List Act) (tags : TagSet)
    (later : List Act) (reader : Nat) : List Act :=
  before ++ .call (.set key item) :: (between ++ .call (.invalidate tags) :: later) ++ [.find reader key]

variable {name : String} {capacity : Nat} {before between later during : List Act} {answer : Lookup}

/-- When the read begins, the key has no item that is still valid. -/
theorem vouched_late (hrun : Runs (Shared.new name capacity)
      (before ++ .call (.set key item) :: (between ++ .call (.invalidate tags) :: later)) n s)
    (hn : n < 2 ^ 64) (hz : item.maxAge ≠ .zero) (ht : item.tags.Meets tags)
    (hw : ∀ a ∈ between ++ later, ∀ i, ¬ a.Writes key i) : s.bin.view.Vouched fun k _ => k ≠ key := by
  have hbetween := Act.not_writes_calls fun a ha => hw a (List.mem_append_left later ha)
  have hlater := Act.not_writes_calls fun a ha => hw a (List.mem_append_right between ha)
  have hlimit : 0 + n < UInt64.size := (Nat.zero_add n).symm ▸ hn
  have hview := hrun.view (Sound.new name capacity) (Within.new name capacity) hlimit
  simp only [List.flatMap_append, List.flatMap_cons, Act.calls, List.singleton_append,
    BinCall.after_append, BinCall.after_cons] at hview
  rw [hview]
  generalize BinCall.after Shelf.step (before.flatMap Act.calls) _ = shelf
  -- After the write the key has this item only, and after the invalidation no valid one.
  have hall : shelf.Vouched fun _ _ => True := fun _ _ _ => trivial
  have hwritten : (shelf.step (.set key item)).2.Vouched fun k i => k = key → i = item := by
    refine hall.step ?_ ?_
    · intro k i _ htouch hk
      exact absurd ⟨hk.symm, hz⟩ htouch
    · rintro k i ⟨hset, -⟩ -
      exact (BinCall.set.inj hset).2.symm
  have hkept := hwritten.after fun c hc k i hwrite hk =>
    absurd (hk ▸ hwrite) (hbetween c hc i)
  refine Shelf.vouched_ne_after ?_ hlater
  refine hkept.step ?_ fun _ _ hwrite => nomatch hwrite.1
  rintro k i hitem htouch hk
  exact htouch (hitem hk ▸ ht)

/-- A read that nothing interrupts reads the bin as a whole. -/
theorem undivided_iff : Runs s [.find r key, .judge r now answer] n u ↔
    s.reads r = none ∧ n = 0 ∧ (s.bin.get now key).1 = answer ∧
      u = { s with bin := (s.bin.get now key).2 } := by
  have hclosed (hr : s.reads r = none) (found : Option Entry) :
      Function.update (Function.update s.reads r (some found)) r none = s.reads := by
    rw [Function.update_idem, ← hr, Function.update_eq_self]
  constructor
  · intro hrun
    have hboth : Runs s ([.find r key] ++ [.judge r now answer]) n u := hrun
    obtain ⟨v, k, l, hfind, hjudge, rfl⟩ := hboth.of_append
    obtain ⟨hr, rfl, rfl⟩ := hfind.of_find
    obtain ⟨found, hfound, rfl, hanswer, rfl⟩ := hjudge.of_judge
    obtain rfl := Option.some.inj ((Function.update_self r _ s.reads).symm.trans hfound)
    exact ⟨hr, rfl, hanswer, congrArg (Shared.mk _) (hclosed hr _)⟩
  · rintro ⟨hr, rfl, hanswer, rfl⟩
    have hjudge : Step ⟨(s.bin.find key).2, Function.update s.reads r (some (s.bin.find key).1)⟩
        (.judge r now answer) 0 ⟨(s.bin.get now key).2, Function.update (Function.update s.reads r _) r none⟩ :=
      .judge (Function.update_self _ _ _) hanswer
    rw [hclosed hr] at hjudge
    exact .cons (.find key hr) (.cons hjudge (.nil _))

/-- A tag of an item is invalidated, and then a read of the item's key begins that nothing interrupts. It
does not answer that the item is fresh, whatever other reads are under way. -/
theorem not_fresh_of_undivided (hrun : Runs (Shared.new name capacity)
      (lateRead before key item between tags later r ++ [.judge r now answer]) n s)
    (hn : n < 2 ^ 64) (hz : item.maxAge ≠ .zero) (ht : item.tags.Meets tags)
    (hw : ∀ a ∈ between ++ later, ∀ i, ¬ a.Writes key i) : answer.isFresh = false := by
  rw [lateRead, List.append_assoc] at hrun
  obtain ⟨u, k, l, hfront, hread, rfl⟩ := hrun.of_append
  obtain ⟨-, -, rfl, -⟩ := undivided_iff.mp hread
  rw [get_eq]
  exact Shelf.not_fresh_of_vouched (vouched_late hfront (by omega) hz ht hw) now

/-- A tag of an item is invalidated, and then a read of the item's key begins. When it answers that the
item is fresh, then between its halves some tag of the item was carried by no item. -/
theorem orphaned_of_stale_read (hrun : Runs (Shared.new name capacity)
      (lateRead before key item between tags later r ++ during ++ [.judge r now (.fresh item)]) n s)
    (hn : n < 2 ^ 64) (hz : item.maxAge ≠ .zero) (ht : item.tags.Meets tags)
    (hw : ∀ a ∈ between ++ later, ∀ i, ¬ a.Writes key i)
    (hr : ∀ now answer, .judge r now answer ∉ during) :
    ∃ first rest k u, during = first ++ rest ∧
      Runs (Shared.new name capacity) (lateRead before key item between tags later r ++ first) k u ∧
      ∃ t ∈ item.tags.toList, ¬ u.bin.Carried t := by
  obtain ⟨s₂, k₂, l₂, hall, hjudge, rfl⟩ := hrun.of_append
  obtain ⟨s₁, k₁, l₁, hlate, hduring, rfl⟩ := hall.of_append
  obtain ⟨s₀, k₀, l₀, hfront, hfind, rfl⟩ := hlate.of_append
  obtain ⟨-, rfl, rfl⟩ := hfind.of_find
  obtain ⟨found, hfound, rfl, hanswer, rfl⟩ := hjudge.of_judge
  have hsound := hfront.sound (Sound.new name capacity)
  rcases hduring.grows_or_orphans (hsound.find key) item.tags with
    ⟨j, hj, hgrown⟩ | ⟨first, rest, k, u, he, hfirst, horphan⟩
  · -- The sum has only grown since the read began, and it had outgrown the entry by then.
    have hopen := hduring.reads (Function.update_self _ _ _) hr
    obtain ⟨e, rfl, rfl, hsum⟩ := judge_fresh hanswer
    rw [hopen, Option.some.injEq, find_fst] at hfound
    have hentry := (Table.find_eq_some_iff hsound.nodup).mp hfound
    obtain ⟨i, hi, hlag⟩ := hfront.within (Sound.new name capacity) (Within.new name capacity) _ hentry
    have hflag : e.checksum ≠ checksum s₀.bin.counters e.item.tags := by
      intro hsame
      refine vouched_late hfront (by omega) hz ht hw _ (List.mem_map_of_mem hentry) ?_ rfl
      simp [slot, hsame]
    rw [hlag, ne_add_iff (by unfold UInt64.size; omega)] at hflag
    rw [hgrown, find_counters, hlag, UInt64.add_assoc, ← UInt64.ofNat_add] at hsum
    have hsame := (ne_add_iff (by unfold UInt64.size; omega)).not_right.mp hsum
    omega
  · exact ⟨first, rest, _, u, he, hlate.append hfirst, horphan⟩

/-- An item with one tag. -/
def tagged : Item := ⟨[1], ⟨[⟨"node:1", by decide⟩], by simp⟩, .permanent, 0⟩

/-- The item leaves between the halves of the read, and the counter of its tag leaves with it. -/
theorem runs_deleted_between : ∃ s, Runs (Shared.new "render" 8)
    (lateRead [] "k" tagged [] tagged.tags [] 0 ++ [.call (.delete "k")] ++ [.judge 0 0 (.fresh tagged)])
    1 s :=
  ⟨_, .cons (.call _ _) (.cons (.call _ _) (.cons (.find _ rfl) (.cons (.call _ _)
    (.cons (.judge rfl (by decide)) (.nil _)))))⟩

/-- An item that is deleted between the halves of a read can be answered as fresh, although its tag was
invalidated before the read began. -/
theorem stale_read : ¬ ∀ (name : String) (capacity : Nat) (before : List Act) (key : String) (item : Item)
    (between : List Act) (tags : TagSet) (later : List Act) (r : Nat) (during : List Act) (now : UInt64)
    (answer : Lookup) (n : Nat) (s : Shared), n < 2 ^ 64 → item.maxAge ≠ .zero → item.tags.Meets tags →
    (∀ a ∈ between ++ later, ∀ i, ¬ a.Writes key i) → (∀ now answer, .judge r now answer ∉ during) →
    Runs (Shared.new name capacity)
      (lateRead before key item between tags later r ++ during ++ [.judge r now answer]) n s →
    answer ≠ .fresh item := by
  intro hnever
  obtain ⟨s, hrun⟩ := runs_deleted_between
  exact hnever "render" 8 [] "k" tagged [] tagged.tags [] 0 [.call (.delete "k")] 0 (.fresh tagged) 1 s
    (by decide) (by decide) (by decide) (by simp) (by simp) hrun rfl

/-- In such a run the tag has no item left after the deletion. -/
theorem orphaned_of_stale_read_deleted :
    let begun := lateRead [] "k" tagged [] tagged.tags [] 0
    1 < 2 ^ 64 ∧ tagged.maxAge ≠ .zero ∧ tagged.tags.Meets tagged.tags ∧
      (∃ s, Runs (Shared.new "render" 8) (begun ++ [.call (.delete "k")] ++ [.judge 0 0 (.fresh tagged)]) 1 s) ∧
      ∃ first rest k u, [.call (.delete "k")] = first ++ rest ∧
        Runs (Shared.new "render" 8) (begun ++ first) k u ∧ ∃ t ∈ tagged.tags.toList, ¬ u.bin.Carried t := by
  intro begun
  have hz : tagged.maxAge ≠ .zero := by decide
  have ht : tagged.tags.Meets tagged.tags := by decide
  obtain ⟨s, hrun⟩ := runs_deleted_between
  exact ⟨by decide, hz, ht, ⟨s, hrun⟩, orphaned_of_stale_read hrun (by decide) hz ht (by simp) (by simp)⟩

end Memory
end TaggedCache
