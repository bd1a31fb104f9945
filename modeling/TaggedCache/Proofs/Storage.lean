import TaggedCache.Proofs.MemoryRun
import TaggedCache.Storage.Faulty

/-!
# What bins hold

What can be relied on with every kind of bin, whether it fails at times or not (`Holding`), and that bins
in memory and bins that fail on schedule can be relied on so.
-/

namespace TaggedCache

/-- What a bin holds under its keys. A fresh item is held and has not expired; reading adds nothing; a
write puts its item in place of what was there, and a failed one changes nothing. The last need only be
so for the bins that can come about. -/
structure Holding {β : Type} [Storage β] (sound : β → Prop) (holds : β → String → Item → Prop) :
    Prop where
  of_fresh : ∀ {now key bin item}, (Storage.get now key bin).1 = .ok (.fresh item) →
    holds bin key item ∧ item.isExpired now = false
  of_get : ∀ {now key bin k i}, holds (Storage.get now key bin).2 k i → holds bin k i
  of_set : ∀ {key item bin k i}, sound bin → item.maxAge ≠ .zero →
    holds (Storage.set key item bin).2 k i →
    ((Storage.set key item bin).1 = .ok () ∧ k = key ∧ i = item) ∨
      (holds bin k i ∧ ((Storage.set key item bin).1 = .ok () → k ≠ key))
  sound_get : ∀ {now key bin}, sound bin → sound (Storage.get now key bin).2
  sound_set : ∀ {key item bin}, sound bin → sound (Storage.set key item bin).2

namespace Memory

variable {k : String} {i : Item}

/-- The item lies in a bin in memory and was not invalidated. -/
def Held (m : Memory) (k : String) (i : Item) : Prop := ⟨k, i, false⟩ ∈ m.view.slots

theorem held_of_vouched {m : Memory} {P : String → Item → Prop} (h : m.view.Vouched P)
    (hi : Held m k i) : P k i := h _ hi rfl

theorem vouched_held (m : Memory) : m.view.Vouched (Held m) := by
  rintro ⟨k, i, stale⟩ he rfl
  exact he

theorem holding : Holding Sound Held where
  of_fresh {now key m item} h := by
    have hget : (m.view.get now key).1 = .fresh item := by
      rw [← get_eq]
      exact Except.ok.inj h
    have ⟨hm, hx⟩ := (vouched_held m).of_fresh hget
    exact ⟨hm, by simpa using hx⟩
  of_get {now key m k i} h := by
    have hv : (m.view.get now key).2.Vouched (Held m) :=
      (vouched_held m).step (c := .get now key) (fun _ _ hi _ => hi) nofun
    rw [← view_get] at hv
    exact held_of_vouched hv h
  of_set {key item m k i} hs hz h := by
    have hv : (m.view.set key item).Vouched fun k i => (k = key ∧ i = item) ∨ (Held m k i ∧ k ≠ key) := by
      refine (vouched_held m).step (c := .set key item) ?_ ?_
      · exact fun k i hi ht => .inr ⟨hi, fun hk => ht ⟨hk.symm, hz⟩⟩
      · rintro k i ⟨hc, -⟩
        obtain ⟨rfl, rfl⟩ := BinCall.set.inj hc
        exact .inl ⟨rfl, rfl⟩
    rw [← view_set hs] at hv
    rcases held_of_vouched hv h with hnew | ⟨hold, hk⟩
    · exact .inl ⟨rfl, hnew⟩
    · exact .inr ⟨hold, fun _ => hk⟩
  sound_get hs := hs.get _ _
  sound_set hs := hs.set _ _

theorem holding_within (n : Nat) : Holding (fun m => m.Sound ∧ m.Within n) Held where
  of_fresh := holding.of_fresh
  of_get := holding.of_get
  of_set hs := holding.of_set hs.1
  sound_get hs := ⟨hs.1.get _ _, hs.2.get hs.1 _ _⟩
  sound_set hs := ⟨hs.1.set _ _, hs.2.set hs.1 _ _⟩

end Memory

namespace Faulty

variable {β : Type} [Storage β] {sound : β → Prop} {holds : β → String → Item → Prop}

theorem get_cases (now : UInt64) (key : String) (b : Faulty β) :
    ((∃ e, (Storage.get now key b).1 = .error e) ∧ (Storage.get now key b).2.bin = b.bin) ∨
      ((Storage.get now key b).1 = (Storage.get now key b.bin).1 ∧
        (Storage.get now key b).2.bin = (Storage.get now key b.bin).2) := by
  cases hn : (next b.reads).1 with
  | true =>
    refine .inl ⟨⟨b.fault, ?_⟩, ?_⟩
    · simp [Storage.get, hn]
    · simp [Storage.get, hn]
  | false =>
    refine .inr ⟨?_, ?_⟩
    · simp [Storage.get, hn]
    · simp [Storage.get, hn]

theorem set_cases (key : String) (item : Item) (b : Faulty β) :
    ((∃ e, (Storage.set key item b).1 = .error e) ∧ (Storage.set key item b).2.bin = b.bin) ∨
      ((Storage.set key item b).1 = (Storage.set key item b.bin).1 ∧
        (Storage.set key item b).2.bin = (Storage.set key item b.bin).2) := by
  cases hn : (next b.writes).1 with
  | true =>
    refine .inl ⟨⟨b.fault, ?_⟩, ?_⟩
    · simp [Storage.set, hn]
    · simp [Storage.set, hn]
  | false =>
    refine .inr ⟨?_, ?_⟩
    · simp [Storage.set, hn]
    · simp [Storage.set, hn]

theorem holding (hb : Holding sound holds) :
    Holding (fun b : Faulty β => sound b.bin) fun b => holds b.bin where
  of_fresh {now key b item} h := by
    rcases get_cases now key b with ⟨⟨e, he⟩, -⟩ | ⟨he, -⟩
    · rw [he] at h
      cases h
    · exact hb.of_fresh (he ▸ h)
  of_get {now key b k i} h := by
    rcases get_cases now key b with ⟨-, he⟩ | ⟨-, he⟩
    · rw [he] at h
      exact h
    · rw [he] at h
      exact hb.of_get h
  of_set {key item b k i} hs hz h := by
    rcases set_cases key item b with ⟨⟨e, hr⟩, he⟩ | ⟨hr, he⟩
    · rw [he] at h
      rw [hr]
      exact .inr ⟨h, nofun⟩
    · rw [he] at h
      rw [hr]
      exact hb.of_set hs hz h
  sound_get {now key b} hs := by
    rcases get_cases now key b with ⟨-, he⟩ | ⟨-, he⟩
    · rw [he]
      exact hs
    · rw [he]
      exact hb.sound_get hs
  sound_set {key item b} hs := by
    rcases set_cases key item b with ⟨-, he⟩ | ⟨-, he⟩
    · rw [he]
      exact hs
    · rw [he]
      exact hb.sound_set hs

end Faulty
end TaggedCache
