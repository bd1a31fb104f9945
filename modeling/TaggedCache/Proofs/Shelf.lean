import Mathlib.Data.List.Induction
import Mathlib.Data.List.Nodup
import TaggedCache.Item

/-!
# A plain store

What a bin does, said without counters, checksums or an index: a list of slots, the last used one
first, each with a flag that is set when one of its tags is invalidated. Two facts about every run
follow from one step lemma each. A slot without the flag was written by a call that nothing has
touched since (`Vouched.step`), and a slot that nothing touches is found again unless as many other
keys as there is room for were used in the meantime (`Kept.step`).
-/

namespace TaggedCache

/-- Two sets have a tag in common. -/
def TagSet.Meets (s u : TagSet) : Prop := ∃ t ∈ s.toList, t ∈ u.toList

instance (s u : TagSet) : Decidable (s.Meets u) :=
  inferInstanceAs (Decidable (∃ t ∈ s.toList, t ∈ u.toList))

theorem TagSet.Meets.symm {s u : TagSet} (h : s.Meets u) : u.Meets s := by
  obtain ⟨t, hs, hu⟩ := h
  exact ⟨t, hu, hs⟩

/-- A call of a bin. -/
inductive BinCall where
  | set (key : String) (item : Item)
  | get (now : UInt64) (key : String)
  | delete (key : String)
  | invalidate (tags : TagSet)
  | deleteTags (tags : TagSet)
  | clear

namespace BinCall

/-- The call writes an item under the key. -/
def Writes (key : String) (item : Item) (c : BinCall) : Prop := c = .set key item ∧ item.maxAge ≠ .zero

/-- The call replaces, removes or invalidates what lies under the key with these tags. -/
def Touches (key : String) (tags : TagSet) : BinCall → Prop
  | .set k item => k = key ∧ item.maxAge ≠ .zero
  | .get _ _ => False
  | .delete k => k = key
  | .invalidate u => tags.Meets u
  | .deleteTags u => tags.Meets u
  | .clear => True

/-- The keys that the call moves to the front. -/
def uses : BinCall → List String
  | .set key _ => [key]
  | .get _ key => [key]
  | _ => []

variable {σ : Type}

/-- The state after some calls. -/
def after (step : BinCall → σ → Option Lookup × σ) (calls : List BinCall) (s : σ) : σ :=
  calls.foldl (fun s c => (step c s).2) s

/-- What each call answers, with the number of stored items after it. -/
def answers (step : BinCall → σ → Option Lookup × σ) (size : σ → Nat) :
    List BinCall → σ → List (Option Lookup × Nat)
  | [], _ => []
  | c :: rest, s =>
    let (answer, s) := step c s
    (answer, size s) :: answers step size rest s

variable {step : BinCall → σ → Option Lookup × σ} {s : σ}

theorem answers_cons {size : σ → Nat} {c : BinCall} {calls : List BinCall} :
    answers step size (c :: calls) s =
      ((step c s).1, size (step c s).2) :: answers step size calls (step c s).2 := rfl

@[simp] theorem after_nil : after step [] s = s := rfl

@[simp] theorem after_cons {c : BinCall} {calls : List BinCall} :
    after step (c :: calls) s = after step calls (step c s).2 := rfl

theorem after_append {calls more : List BinCall} :
    after step (calls ++ more) s = after step more (after step calls s) := List.foldl_append

end BinCall

/-- A stored item. -/
structure Slot where
  key : String
  item : Item
  /-- One of the tags was invalidated since the item was written. -/
  stale : Bool
deriving DecidableEq

/-- The flag is set when the item has one of the tags. -/
def Slot.flag (tags : TagSet) (e : Slot) : Slot :=
  { e with stale := e.stale || e.item.tags.Meets tags }

/-- A plain store. -/
structure Shelf where
  capacity : Nat
  slots : List Slot

namespace Shelf

/-- The slots of all other keys. -/
def without (key : String) (slots : List Slot) : List Slot := slots.filter fun e => e.key ≠ key

def empty (capacity : Nat) : Shelf := ⟨capacity, []⟩

def size (s : Shelf) : Nat := s.slots.length

/-- Puts an item in front and drops the last one when there are too many. -/
def set (key : String) (item : Item) (s : Shelf) : Shelf :=
  if item.maxAge = .zero then s
  else
    let slots := ⟨key, item, false⟩ :: without key s.slots
    { s with slots := if slots.length ≤ s.capacity then slots else slots.dropLast }

/-- Moves an item to the front and says what it is worth. -/
def get (now : UInt64) (key : String) (s : Shelf) : Lookup × Shelf :=
  match s.slots.find? fun e => e.key = key with
  | none => (.absent, s)
  | some e =>
    (if e.stale ∨ e.item.isExpired now then .stale e.item else .fresh e.item,
      { s with slots := e :: without key s.slots })

def delete (key : String) (s : Shelf) : Shelf := { s with slots := without key s.slots }

/-- Flags every item that has one of the tags. -/
def invalidate (tags : TagSet) (s : Shelf) : Shelf :=
  { s with slots := s.slots.map (Slot.flag tags) }

/-- Removes every item that has one of the tags. -/
def deleteTags (tags : TagSet) (s : Shelf) : Shelf :=
  { s with slots := s.slots.filter fun e => ¬ e.item.tags.Meets tags }

def clear (s : Shelf) : Shelf := { s with slots := [] }

def step : BinCall → Shelf → Option Lookup × Shelf
  | .set key item, s => (none, s.set key item)
  | .get now key, s => (some (s.get now key).1, (s.get now key).2)
  | .delete key, s => (none, s.delete key)
  | .invalidate tags, s => (none, s.invalidate tags)
  | .deleteTags tags, s => (none, s.deleteTags tags)
  | .clear, s => (none, s.clear)

variable {s : Shelf} {key : String} {item : Item} {now : UInt64} {c : BinCall}

theorem mem_without {e : Slot} {slots : List Slot} :
    e ∈ without key slots ↔ e ∈ slots ∧ e.key ≠ key := by
  simp [without]

theorem key_of_find {e : Slot} {slots : List Slot}
    (h : slots.find? (fun e => e.key = key) = some e) : e.key = key := by
  simpa using List.find?_some h

/-! ## No key lies in two slots -/

/-- Each key has one slot at most. -/
def Distinct (s : Shelf) : Prop := (s.slots.map (·.key)).Nodup

theorem Distinct.of_sublist {slots more : List Slot} (h : slots.Sublist more)
    (hm : (more.map (·.key)).Nodup) : (slots.map (·.key)).Nodup :=
  hm.sublist (h.map _)

theorem Distinct.put {e : Slot} {slots : List Slot} (h : (slots.map (·.key)).Nodup) :
    ((e :: without e.key slots).map (·.key)).Nodup := by
  rw [List.map_cons, List.nodup_cons]
  refine ⟨?_, Distinct.of_sublist List.filter_sublist h⟩
  intro hm
  obtain ⟨e', he, hk⟩ := List.mem_map.mp hm
  exact (mem_without.mp he).2 hk

theorem Distinct.step (h : s.Distinct) (c : BinCall) : (s.step c).2.Distinct := by
  cases c with
  | set key item =>
    show (s.set key item).Distinct
    unfold set
    split
    · exact h
    · have hput := Distinct.put (e := ⟨key, item, false⟩) h
      simp only [Distinct]
      split
      · exact hput
      · exact Distinct.of_sublist (List.dropLast_sublist _) hput
  | get now key =>
    show (s.get now key).2.Distinct
    unfold get
    split
    · exact h
    · next e hf => exact key_of_find hf ▸ Distinct.put h
  | delete key => exact Distinct.of_sublist List.filter_sublist h
  | invalidate tags =>
    show ((s.slots.map (Slot.flag tags)).map _).Nodup
    rw [List.map_map]
    exact h
  | deleteTags tags => exact Distinct.of_sublist List.filter_sublist h
  | clear => exact List.nodup_nil

theorem Distinct.after (h : s.Distinct) (calls : List BinCall) :
    (BinCall.after Shelf.step calls s).Distinct := by
  induction calls generalizing s with
  | nil => exact h
  | cons c rest ih => exact ih (h.step c)

/-! ## What lies in the slots without a flag -/

/-- Every item without a flag has a property, together with its key. -/
def Vouched (P : String → Item → Prop) (s : Shelf) : Prop :=
  ∀ e ∈ s.slots, e.stale = false → P e.key e.item

/-- A call keeps what it does not touch, and adds what it writes. -/
theorem Vouched.step {P Q : String → Item → Prop} (h : s.Vouched P)
    (hkeep : ∀ k i, P k i → ¬ c.Touches k i.tags → Q k i)
    (hwrite : ∀ k i, c.Writes k i → Q k i) : (s.step c).2.Vouched Q := by
  cases c with
  | set key item =>
    show (s.set key item).Vouched Q
    unfold set
    split
    · next hz =>
      intro e he hs
      exact hkeep _ _ (h e he hs) fun ht => ht.2 hz
    · next hz =>
      have hput : ∀ e ∈ (⟨key, item, false⟩ : Slot) :: without key s.slots, e.stale = false →
          Q e.key e.item := by
        intro e he hs
        rcases List.mem_cons.mp he with rfl | he
        · exact hwrite _ _ ⟨rfl, hz⟩
        · have ⟨hm, hk⟩ := mem_without.mp he
          exact hkeep _ _ (h e hm hs) fun ht => hk ht.1.symm
      intro e he hs
      simp only at he
      split at he
      · exact hput e he hs
      · exact hput e (List.dropLast_subset _ he) hs
  | get now key =>
    show (s.get now key).2.Vouched Q
    have hall : s.Vouched Q := fun e he hs => hkeep _ _ (h e he hs) id
    unfold get
    split
    · exact hall
    · next e' hf =>
      intro e he hs
      rcases List.mem_cons.mp he with rfl | he
      · exact hall _ (List.mem_of_find?_eq_some hf) hs
      · exact hall e (mem_without.mp he).1 hs
  | delete key =>
    intro e he hs
    have ⟨hm, hk⟩ := mem_without.mp he
    exact hkeep _ _ (h e hm hs) fun ht => hk ht.symm
  | invalidate tags =>
    intro e he hs
    obtain ⟨e', hm, rfl⟩ := List.mem_map.mp he
    simp only [Slot.flag, Bool.or_eq_false_iff, decide_eq_false_iff_not] at hs
    exact hkeep _ _ (h e' hm hs.1) hs.2
  | deleteTags tags =>
    intro e he hs
    have ⟨hm, ht⟩ := List.mem_filter.mp he
    exact hkeep _ _ (h e hm hs) (of_decide_eq_true (p := ¬ e.item.tags.Meets tags) ht)
  | clear =>
    intro e he hs
    cases he

theorem Vouched.of_fresh {P : String → Item → Prop} (h : s.Vouched P)
    (hg : (s.get now key).1 = .fresh item) : P key item ∧ ¬ item.isExpired now := by
  unfold get at hg
  split at hg
  · cases hg
  · next e hf =>
    simp only at hg
    split at hg
    · cases hg
    · next hn =>
      obtain rfl := Lookup.fresh.inj hg
      simp only [not_or, Bool.not_eq_true] at hn
      have hp := h e (List.mem_of_find?_eq_some hf) hn.1
      rw [key_of_find hf] at hp
      exact ⟨hp, by simp [hn.2]⟩

/-- An item was written by a call that nothing has touched since. -/
def Untouched (calls : List BinCall) (key : String) (item : Item) : Prop :=
  ∃ before between c, calls = before ++ c :: between ∧ c.Writes key item ∧
    ∀ d ∈ between, ¬ d.Touches key item.tags

theorem vouched_after (capacity : Nat) (calls : List BinCall) :
    (BinCall.after step calls (empty capacity)).Vouched (Untouched calls) := by
  -- The calls are taken from the last one, which is the one that the step lemma is about.
  induction calls using List.reverseRecOn with
  | nil =>
    intro e he
    cases he
  | append_singleton calls c ih =>
    rw [BinCall.after_append]
    refine Vouched.step ih ?_ ?_
    · rintro k i ⟨before, between, w, rfl, hw, hb⟩ ht
      refine ⟨before, between ++ [c], w, by simp, hw, ?_⟩
      intro d hd
      rcases List.mem_append.mp hd with hd | hd
      · exact hb d hd
      · exact List.mem_singleton.mp hd ▸ ht
    · intro k i hw
      exact ⟨calls, [], c, rfl, hw, by simp⟩

/-- A property of what has no flag stays when whatever is written has it as well. -/
theorem Vouched.after {P : String → Item → Prop} {calls : List BinCall} (h : s.Vouched P)
    (hw : ∀ c ∈ calls, ∀ k i, c.Writes k i → P k i) :
    (BinCall.after Shelf.step calls s).Vouched P := by
  induction calls generalizing s with
  | nil => exact h
  | cons c rest ih =>
    exact ih (h.step (fun _ _ hp _ => hp) (hw c (by simp))) fun d hd => hw d (by simp [hd])

/-- A key whose item is flagged has none without a flag until it is written again. -/
theorem vouched_ne_after {calls : List BinCall} (h : s.Vouched fun k _ => k ≠ key)
    (hw : ∀ c ∈ calls, ∀ i, ¬ c.Writes key i) :
    (BinCall.after Shelf.step calls s).Vouched fun k _ => k ≠ key := by
  refine h.after fun c hc k i hwrite hk => ?_
  exact hw c hc i (hk ▸ hwrite)

theorem not_fresh_of_vouched (h : s.Vouched fun k _ => k ≠ key) (now : UInt64) :
    (s.get now key).1.isFresh = false := by
  cases hg : (s.get now key).1 with
  | fresh item => exact absurd rfl (h.of_fresh hg).1
  | stale item => rfl
  | absent => rfl

theorem vouched_ne_invalidate {e : Slot} {tags : TagSet} (hd : s.Distinct) (he : e ∈ s.slots)
    (ht : e.item.tags.Meets tags) : (s.invalidate tags).Vouched fun k _ => k ≠ e.key := by
  intro e' he' hs hk
  obtain ⟨e'', hm, rfl⟩ := List.mem_map.mp he'
  obtain rfl : e'' = e := List.inj_on_of_nodup_map hd hm he hk
  simp [Slot.flag, ht] at hs

/-- A key that is written has no other item without a flag than those written there. -/
theorem vouched_of_set {calls : List BinCall} {Q : Item → Prop} (hset : .set key item ∈ calls)
    (hz : item.maxAge ≠ .zero) (hall : ∀ c ∈ calls, ∀ i, c.Writes key i → Q i) :
    (BinCall.after Shelf.step calls s).Vouched fun k i => k = key → Q i := by
  obtain ⟨before, rest, rfl⟩ := List.append_of_mem hset
  rw [BinCall.after_append, BinCall.after_cons]
  refine Vouched.after ?_ ?_
  · refine Vouched.step (P := fun _ _ => True) (fun _ _ _ => trivial) ?_ ?_
    · intro k i _ htouch hk
      exact absurd ⟨hk.symm, hz⟩ htouch
    · rintro k i hwrite rfl
      exact hall _ (by simp) i hwrite
  · rintro c hc k i hwrite rfl
    exact hall c (by simp [hc]) i hwrite

/-- When all that may be fresh under a key has one of some tags, nothing is fresh there behind an invalidation of
these tags, until the key is written again. -/
theorem not_fresh_invalidated {between later : List BinCall} {tags : TagSet}
    (h : s.Vouched fun k i => k = key → i.tags.Meets tags)
    (hother : ∀ c ∈ between ++ later, ∀ i, ¬ c.Writes key i) (now : UInt64) :
    ((BinCall.after Shelf.step (between ++ .invalidate tags :: later) s).get now key).1.isFresh = false := by
  rw [BinCall.after_append, BinCall.after_cons]
  have hbetween : (BinCall.after Shelf.step between s).Vouched fun k i => k = key → i.tags.Meets tags := by
    refine h.after fun c hc k i hwrite hk => ?_
    exact absurd (hk ▸ hwrite) (hother c (List.mem_append_left _ hc) i)
  have hnamed : ((BinCall.after Shelf.step between s).invalidate tags).Vouched fun k _ => k ≠ key :=
    hbetween.step (c := .invalidate tags) (fun _ _ hmeets htouch hk => htouch (hmeets hk)) nofun
  exact not_fresh_of_vouched
    (vouched_ne_after hnamed fun c hc => hother c (List.mem_append_right _ hc)) now

/-! ## What is found again -/

/-- The item lies in a slot without a flag, and only used keys lie in front of it; or it was pushed out
by as many used keys as there is room for. -/
def Kept (key : String) (item : Item) (used : List String) (s : Shelf) : Prop :=
  (∃ front back, s.slots = front ++ ⟨key, item, false⟩ :: back ∧
    ∀ e ∈ front, e.key ≠ key ∧ e.key ∈ used) ∨
  ((∀ e ∈ s.slots, e.key ≠ key) ∧
    ∃ ks : List String, ks.Nodup ∧ ks.length = s.capacity ∧ ∀ k ∈ ks, k ≠ key ∧ k ∈ used)

theorem capacity_step (s : Shelf) (c : BinCall) : (s.step c).2.capacity = s.capacity := by
  cases c with
  | set key item =>
    show (s.set key item).capacity = _
    unfold set
    split <;> rfl
  | get now key =>
    show (s.get now key).2.capacity = _
    unfold get
    split <;> rfl
  | delete key => rfl
  | invalidate tags => rfl
  | deleteTags tags => rfl
  | clear => rfl

theorem capacity_after (s : Shelf) (calls : List BinCall) :
    (BinCall.after Shelf.step calls s).capacity = s.capacity := by
  induction calls generalizing s with
  | nil => rfl
  | cons c rest ih => exact (ih _).trans (capacity_step s c)

theorem Kept.set_self (hc : 0 < s.capacity) (hz : item.maxAge ≠ .zero) :
    (s.set key item).Kept key item [] := by
  unfold set
  rw [if_neg hz]
  cases hw : without key s.slots with
  | nil => exact .inl ⟨[], [], by simp [Nat.one_le_iff_ne_zero.mpr (Nat.ne_of_gt hc)], by simp⟩
  | cons e rest =>
    simp only
    split
    · exact .inl ⟨[], e :: rest, rfl, by simp⟩
    · exact .inl ⟨[], (e :: rest).dropLast, rfl, by simp⟩

theorem Kept.mono {used more : List String} (h : s.Kept key item used) (hm : used ⊆ more) :
    s.Kept key item more := by
  rcases h with ⟨front, back, hs, hf⟩ | ⟨hs, ks, hn, hl, hk⟩
  · exact .inl ⟨front, back, hs, fun e he => ⟨(hf e he).1, hm (hf e he).2⟩⟩
  · exact .inr ⟨hs, ks, hn, hl, fun k hkm => ⟨(hk k hkm).1, hm (hk k hkm).2⟩⟩

/-- Removing other slots keeps what is kept. -/
theorem Kept.filter {used : List String} {p : Slot → Bool} (h : s.Kept key item used)
    (hp : p ⟨key, item, false⟩ = true) :
    Kept key item used { s with slots := s.slots.filter p } := by
  rcases h with ⟨front, back, hs, hf⟩ | ⟨hs, hk⟩
  · refine .inl ⟨front.filter p, back.filter p, by simp [hs, hp], ?_⟩
    exact fun e he => hf e (List.mem_filter.mp he).1
  · exact .inr ⟨fun e he => hs e (List.mem_filter.mp he).1, hk⟩

/-- Another key is put in front. -/
theorem Kept.put {used : List String} {e : Slot} (h : s.Kept key item used) (hk : e.key ≠ key) :
    Kept key item (used ++ [e.key]) { s with slots := e :: without e.key s.slots } := by
  have hw : Kept key item used { s with slots := without e.key s.slots } :=
    h.filter (by simpa using Ne.symm hk)
  rcases hw.mono (List.subset_append_left used [e.key]) with ⟨front, back, hs, hf⟩ | ⟨hs, hl⟩
  · refine .inl ⟨e :: front, back, by simp_all, ?_⟩
    intro e' he
    rcases List.mem_cons.mp he with rfl | he
    · exact ⟨hk, by simp⟩
    · exact hf e' he
  · refine .inr ⟨?_, hl⟩
    intro e' he
    rcases List.mem_cons.mp he with rfl | he
    · exact hk
    · exact hs e' he

/-- Dropping the last of too many slots keeps an item, or only used keys are left. -/
theorem Kept.dropLast {used : List String} (h : s.Kept key item used) (hd : s.Distinct)
    (hl : s.capacity < s.slots.length) :
    Kept key item used { s with slots := s.slots.dropLast } := by
  rcases h with ⟨front, back, hs, hf⟩ | ⟨hs, hk⟩
  · cases back with
    | cons e back =>
      refine .inl ⟨front, (e :: back).dropLast, ?_, hf⟩
      simp [hs, List.dropLast_append_of_ne_nil]
    | nil =>
      have hfront : s.slots.dropLast = front := by simp [hs]
      have hlen : s.capacity ≤ front.length := by
        have := congrArg List.length hs
        simp only [List.length_append, List.length_singleton] at this
        omega
      have hn : (front.map (·.key)).Nodup := hfront ▸ hd.sublist ((List.dropLast_sublist _).map _)
      refine .inr ⟨fun e he => (hf e (hfront ▸ he)).1, (front.map (·.key)).take s.capacity,
        hn.sublist (List.take_sublist _ _), by simp [hlen], ?_⟩
      intro k hk
      obtain ⟨e, he, rfl⟩ := List.mem_map.mp (List.mem_of_mem_take hk)
      exact hf e he
  · exact .inr ⟨fun e he => hs e (List.dropLast_subset _ he), hk⟩

theorem find_of_split {e : Slot} {front : List Slot} (back : List Slot) (hk : e.key = key)
    (hf : ∀ e ∈ front, e.key ≠ key) :
    (front ++ e :: back).find? (fun e => e.key = key) = some e := by
  rw [List.find?_append, List.find?_eq_none.mpr (by simpa using hf)]
  simp [hk]

/-- A call that does not touch an item keeps it. -/
theorem Kept.step {used : List String} (h : s.Kept key item used) (hd : s.Distinct)
    (ht : ¬ c.Touches key item.tags) : (s.step c).2.Kept key item (used ++ c.uses) := by
  cases c with
  | set k i =>
    show (s.set k i).Kept key item (used ++ [k])
    unfold set
    split
    · exact h.mono (List.subset_append_left _ _)
    · next hz =>
      have hput := h.put (e := ⟨k, i, false⟩) fun hk => ht ⟨hk, hz⟩
      simp only
      split
      · exact hput
      · next hl => exact hput.dropLast (Distinct.put hd) (Nat.lt_of_not_le hl)
  | get now k =>
    show (s.get now k).2.Kept key item (used ++ [k])
    unfold get
    split
    · exact h.mono (List.subset_append_left _ _)
    · next e hfind =>
      have hek := key_of_find hfind
      by_cases hk : k = key
      · rcases h with ⟨front, back, hs, hf⟩ | ⟨hs, -⟩
        · have hsame := find_of_split (e := ⟨key, item, false⟩) back rfl
            fun e he => (hf e he).1
          rw [hs, hk, hsame] at hfind
          obtain rfl := Option.some.inj hfind
          exact .inl ⟨[], without k s.slots, rfl, by simp⟩
        · exact absurd (hek.trans hk) (hs e (List.mem_of_find?_eq_some hfind))
      · subst hek
        exact h.put hk
  | delete k =>
    exact (h.filter (by simpa using fun e : key = k => ht e.symm)).mono (by simp [BinCall.uses])
  | invalidate tags =>
    refine Kept.mono ?_ (List.subset_append_left used _)
    rcases h with ⟨front, back, hs, hf⟩ | ⟨hs, hk⟩
    · refine .inl ⟨front.map (Slot.flag tags), back.map (Slot.flag tags), ?_, ?_⟩
      · have hm : ¬ item.tags.Meets tags := ht
        simp [Shelf.step, invalidate, Slot.flag, hs, hm]
      · intro e he
        obtain ⟨e', hm, rfl⟩ := List.mem_map.mp he
        exact hf e' hm
    · refine .inr ⟨?_, hk⟩
      intro e he
      obtain ⟨e', hm, rfl⟩ := List.mem_map.mp he
      exact hs e' hm
  | deleteTags tags =>
    have hm : ¬ item.tags.Meets tags := ht
    exact (h.filter (by simpa using hm)).mono (List.subset_append_left _ _)
  | clear => exact absurd trivial ht

theorem Kept.after {used : List String} {calls : List BinCall} (h : s.Kept key item used)
    (hd : s.Distinct) (ht : ∀ c ∈ calls, ¬ c.Touches key item.tags) :
    (BinCall.after Shelf.step calls s).Kept key item (used ++ calls.flatMap BinCall.uses) := by
  induction calls generalizing s used with
  | nil => simpa using h
  | cons c rest ih =>
    have hc := h.step hd (ht c (by simp))
    have := ih hc (hd.step c) fun d hdm => ht d (by simp [hdm])
    simpa using this

/-- What is kept is served until it expires, unless it was pushed out. -/
theorem Kept.get {used : List String} (h : s.Kept key item used) (now : UInt64) :
    (s.get now key).1 = (if item.isExpired now then .stale item else .fresh item) ∨
    ((s.get now key).1 = .absent ∧
      ∃ ks : List String, ks.Nodup ∧ ks.length = s.capacity ∧ ∀ k ∈ ks, k ≠ key ∧ k ∈ used) := by
  rcases h with ⟨front, back, hs, hf⟩ | ⟨hs, hk⟩
  · have hfind := find_of_split (e := ⟨key, item, false⟩) back rfl fun e he => (hf e he).1
    refine .inl ?_
    unfold Shelf.get
    rw [hs, hfind]
    simp
  · have hnone : s.slots.find? (fun e => e.key = key) = none := by
      simpa [List.find?_eq_none] using hs
    refine .inr ⟨?_, hk⟩
    unfold Shelf.get
    rw [hnone]

end Shelf
end TaggedCache
