import TaggedCache.Proofs.Fingerprint
import TaggedCache.Proofs.MemoryRun
import TaggedCache.Query.Cache

/-!
# Query results served from a bin

What a call of the query cache does is told by one lemma for every kind of bin (`Call.run_cases`).
Over a bin in memory that nothing else writes, calls are mixed with invalidations and deletions of
tags. A result that is served without its query was the result of an earlier one with the same SQL
and the same parameters, none of its tags was named since, and it has not expired
(`served_result_is_sound`).
-/

namespace TaggedCache

theorem Codec.decode_encode_text {s : String} {data : Bytes} (h : text.encode s = some data) :
    text.decode data = some s := by
  obtain rfl := Option.some.inj h
  have hread := Json.readBytes?_bytes (.text s)
  simp only [text, hread]

namespace Query

/-- What a caller asks, how the database would answer, and when. -/
structure Call (α ε : Type) where
  sql : String
  params : List Param
  tags : TagSet
  maxAge : MaxAge
  execute : Except ε α
  /-- The collectors that are open around the call. -/
  collector : Collector
  /-- When the bin is read. -/
  now : UInt64
  /-- When the database has answered. -/
  finished : UInt64

variable {α β ε : Type} [Storage β] {codec : Codec α} {c u : Call α ε} {bin : β} {m : Memory}
  {k : String} {item : Item} {value : α}

namespace Call

def run (codec : Codec α) (c : Call α ε) (bin : β) : Answer α ε × Collector × β :=
  getOrExecute codec c.now c.finished c.sql c.params c.tags c.maxAge c.execute c.collector bin

/-- The collectors once the call has reported to them. -/
def told (c : Call α ε) : Collector := c.collector.record ⟨[], c.tags, c.maxAge, true⟩

/-- The answer when the database is asked. -/
def asked (c : Call α ε) : Answer α ε := ⟨c.execute, true⟩

/-- What is stored once the database has answered, if anything is. -/
def filed? (codec : Codec α) (c : Call α ε) : Option Item :=
  match c.execute with
  | .error _ => none
  | .ok value =>
    if c.maxAge = .zero then none
    else (codec.encode value).map fun data => ⟨data, c.tags, c.maxAge, c.finished⟩

theorem filed?_some (h : c.filed? codec = some item) : ∃ value, c.execute = .ok value ∧
    codec.encode value = some item.data ∧ item.tags = c.tags ∧ item.maxAge = c.maxAge ∧
    item.created = c.finished ∧ c.maxAge ≠ .zero := by
  unfold filed? at h
  split at h
  · cases h
  · next value hv =>
    split at h
    · cases h
    · next hz =>
      obtain ⟨data, hd, rfl⟩ := Option.map_eq_some_iff.mp h
      exact ⟨value, hv, hd, rfl, rfl, rfl, hz⟩

/-- The bin once the database has answered. -/
def keep (codec : Codec α) (c : Call α ε) (k : String) (bin : β) : β :=
  match c.filed? codec with
  | none => bin
  | some item => (Storage.set k item bin).2

theorem keep_eq (codec : Codec α) (c : Call α ε) (k : String) (bin : β) :
    c.keep codec k bin = match c.execute with
      | .error _ => bin
      | .ok value => write codec c.finished k value c.tags c.maxAge bin := by
  unfold keep filed? write
  cases c.execute with
  | error e => rfl
  | ok value =>
    by_cases hz : c.maxAge = .zero
    · simp [hz, MaxAge.isZero]
    · cases he : codec.encode value <;> simp [hz, he, MaxAge.isZero]

/-- The result that the bin has for the call. -/
def found? (codec : Codec α) (c : Call α ε) (k : String) (bin : β) : Option α :=
  (read codec c.now k bin).1

theorem found?_eq_some_iff : c.found? codec k bin = some value ↔
    ∃ item, (Storage.get c.now k bin).1 = .ok (.fresh item) ∧ codec.decode item.data = some value := by
  unfold found? read
  rcases Storage.get c.now k bin with ⟨_ | ⟨item | item | _⟩, after⟩ <;> simp

theorem read_snd (codec : Codec α) (now : UInt64) (k : String) (bin : β) :
    (read codec now k bin).2 = (Storage.get now k bin).2 := by
  unfold read
  rcases Storage.get now k bin with ⟨_ | ⟨item | item | _⟩, after⟩ <;> rfl

theorem run_unnamed {fault : Fault} (hk : key c.sql c.params = .error fault) :
    c.run codec bin = (c.asked, c.told, bin) := by
  unfold run getOrExecute
  rw [hk]
  rfl

theorem run_served (hk : key c.sql c.params = .ok k) (hf : c.found? codec k bin = some value) :
    c.run codec bin = (⟨.ok value, false⟩, c.told, (Storage.get c.now k bin).2) := by
  have hread : read codec c.now k bin = (some value, (Storage.get c.now k bin).2) :=
    Prod.ext hf (read_snd codec c.now k bin)
  unfold run getOrExecute
  simp only [hk, hread]
  rfl

theorem run_missed (hk : key c.sql c.params = .ok k) (hm : c.found? codec k bin = none) :
    c.run codec bin = (c.asked, c.told, c.keep codec k (Storage.get c.now k bin).2) := by
  have hread : read codec c.now k bin = (none, (Storage.get c.now k bin).2) :=
    Prod.ext hm (read_snd codec c.now k bin)
  unfold run getOrExecute
  simp only [hk, hread, keep_eq]
  cases he : c.execute <;> simp [asked, told, he]

/-- A query without a key leaves the bin alone; a result in the bin is served; and in every other case
the database is asked, and its answer returned. -/
theorem run_cases (codec : Codec α) (c : Call α ε) (bin : β) :
    ((∃ fault, key c.sql c.params = .error fault) ∧ c.run codec bin = (c.asked, c.told, bin)) ∨
    ∃ k, key c.sql c.params = .ok k ∧
      ((∃ value, c.found? codec k bin = some value ∧
          c.run codec bin = (⟨.ok value, false⟩, c.told, (Storage.get c.now k bin).2)) ∨
        (c.found? codec k bin = none ∧
          c.run codec bin = (c.asked, c.told, c.keep codec k (Storage.get c.now k bin).2))) := by
  cases hk : key c.sql c.params with
  | error fault => exact .inl ⟨⟨fault, rfl⟩, run_unnamed hk⟩
  | ok k =>
    cases hf : c.found? codec k bin with
    | some value => exact .inr ⟨k, rfl, .inl ⟨value, hf, run_served hk hf⟩⟩
    | none => exact .inr ⟨k, rfl, .inr ⟨hf, run_missed hk hf⟩⟩

theorem run_told (codec : Codec α) (c : Call α ε) (bin : β) : (c.run codec bin).2.1 = c.told := by
  rcases run_cases codec c bin with ⟨-, he⟩ | ⟨k, -, ⟨value, -, he⟩ | ⟨-, he⟩⟩
  all_goals rw [he]

theorem run_of_executed (h : (c.run codec bin).1.executed = true) : (c.run codec bin).1 = c.asked := by
  rcases run_cases codec c bin with ⟨-, he⟩ | ⟨k, -, ⟨value, -, he⟩ | ⟨-, he⟩⟩
  · rw [he]
  · rw [he] at h
    cases h
  · rw [he]

/-- What keeps a call from being served from its bin, or its result from being kept there. -/
inductive Hindered (codec : Codec α) (c : Call α ε) (bin : β) : Prop where
  | unnamed {fault : Fault} (hk : key c.sql c.params = .error fault)
  | unread {k : String} {e : BinFault} (hk : key c.sql c.params = .ok k)
      (hg : (Storage.get c.now k bin).1 = .error e)
  | undecodable {k : String} {item : Item} (hk : key c.sql c.params = .ok k)
      (hg : (Storage.get c.now k bin).1 = .ok (.fresh item)) (hd : codec.decode item.data = none)
  | unwritten {k : String} {item : Item} {e : BinFault} (hk : key c.sql c.params = .ok k)
      (hm : c.found? codec k bin = none) (hf : c.filed? codec = some item)
      (hs : (Storage.set k item (Storage.get c.now k bin).2).1 = .error e)

theorem run_of_hindered (h : c.Hindered codec bin) : (c.run codec bin).1 = c.asked := by
  rcases run_cases codec c bin with ⟨-, he⟩ | ⟨k, hk, ⟨value, hfound, he⟩ | ⟨-, he⟩⟩
  · rw [he]
  · -- The call was served, and each hindrance excludes that.
    obtain ⟨item, hfresh, hdecode⟩ := found?_eq_some_iff.mp hfound
    cases h with
    | unnamed hk' =>
      rw [hk] at hk'
      cases hk'
    | unread hk' hg =>
      obtain rfl := Except.ok.inj (hk.symm.trans hk')
      rw [hfresh] at hg
      cases hg
    | undecodable hk' hg hd =>
      obtain rfl := Except.ok.inj (hk.symm.trans hk')
      obtain rfl := Lookup.fresh.inj (Except.ok.inj (hfresh.symm.trans hg))
      rw [hdecode] at hd
      cases hd
    | unwritten hk' hm =>
      obtain rfl := Except.ok.inj (hk.symm.trans hk')
      rw [hfound] at hm
      cases hm
  · rw [he]

/-- The bin after a call that at most reads it. -/
def looked (c : Call α ε) (bin : β) : β :=
  match key c.sql c.params with
  | .error _ => bin
  | .ok k => (Storage.get c.now k bin).2

/-- A call that has nothing to store does not write. -/
theorem run_looked (h : c.filed? codec = none) : (c.run codec bin).2.2 = c.looked bin := by
  unfold looked
  rcases run_cases codec c bin with ⟨⟨fault, hk⟩, he⟩ | ⟨k, hk, ⟨value, -, he⟩ | ⟨-, he⟩⟩
  · rw [hk, he]
  · rw [hk, he]
  · rw [hk, he, keep, h]

theorem filed?_eq_none (h : (∃ e, c.execute = .error e) ∨ c.maxAge = .zero) : c.filed? codec = none := by
  cases hf : c.filed? codec with
  | none => rfl
  | some item =>
    obtain ⟨value, hv, -, -, -, -, hz⟩ := filed?_some hf
    rcases h with ⟨e, he⟩ | hzero
    · rw [hv] at he
      cases he
    · exact absurd hzero hz

/-! ## A bin in memory -/

/-- What a call asks of a bin in memory. -/
def traffic (codec : Codec α) (c : Call α ε) (m : Memory) : List BinCall :=
  match key c.sql c.params with
  | .error _ => []
  | .ok k => .get c.now k ::
      if (c.run codec m).1.executed then (c.filed? codec).toList.map (BinCall.set k) else []

theorem run_traffic (codec : Codec α) (c : Call α ε) (m : Memory) :
    (c.run codec m).2.2 = BinCall.after Memory.step (c.traffic codec m) m := by
  unfold traffic
  rcases run_cases codec c m with ⟨⟨fault, hk⟩, he⟩ | ⟨k, hk, ⟨value, -, he⟩ | ⟨-, he⟩⟩
  · rw [hk, he]
    rfl
  · rw [hk, he]
    rfl
  · rw [hk, he]
    unfold keep
    cases c.filed? codec <;> rfl

/-- A call raises no counter. -/
theorem spent_traffic (codec : Codec α) (c : Call α ε) (m : Memory) :
    Memory.spent (c.traffic codec m) m = 0 := by
  unfold traffic
  cases key c.sql c.params with
  | error fault => rfl
  | ok k =>
    simp only
    split
    · cases c.filed? codec <;> rfl
    · rfl

/-- A write is the result of a query that was executed. -/
theorem set_mem_traffic (h : BinCall.set k item ∈ c.traffic codec m) :
    key c.sql c.params = .ok k ∧ c.filed? codec = some item ∧ (c.run codec m).1 = c.asked := by
  unfold traffic at h
  split at h
  · cases h
  · next k' hk =>
    rcases List.mem_cons.mp h with h | h
    · cases h
    · split at h
      · next hx =>
        obtain ⟨item', hf, he⟩ := List.mem_map.mp h
        obtain ⟨rfl, rfl⟩ := BinCall.set.inj he
        exact ⟨hk, Option.mem_toList.mp hf, run_of_executed hx⟩
      · cases h

end Call

/-- What happens to a query cache and its bin. -/
inductive Event (α ε : Type) where
  | call (c : Call α ε)
  | invalidate (tags : TagSet)
  | deleteTags (tags : TagSet)

namespace Event

def apply (codec : Codec α) : Event α ε → Memory → Memory
  | call c, m => (c.run codec m).2.2
  | invalidate tags, m => m.invalidate tags
  | deleteTags tags, m => m.deleteTags tags

def after (codec : Codec α) (past : List (Event α ε)) (m : Memory) : Memory :=
  past.foldl (fun m e => e.apply codec m) m

/-- What an event asks of the bin. -/
def calls (codec : Codec α) : Event α ε → Memory → List BinCall
  | call c, m => c.traffic codec m
  | invalidate tags, _ => [.invalidate tags]
  | deleteTags tags, _ => [.deleteTags tags]

/-- What some events ask of the bin, one after another. -/
def traffic (codec : Codec α) : List (Event α ε) → Memory → List BinCall
  | [], _ => []
  | e :: rest, m => e.calls codec m ++ traffic codec rest (e.apply codec m)

/-- The event invalidates or removes what carries these tags. -/
def Strikes (tags : TagSet) : Event α ε → Prop
  | call _ => False
  | invalidate named => tags.Meets named
  | deleteTags named => tags.Meets named

variable {past : List (Event α ε)} {e : Event α ε} {front back : List BinCall} {tags : TagSet}

theorem apply_calls (codec : Codec α) (e : Event α ε) (m : Memory) :
    e.apply codec m = BinCall.after Memory.step (e.calls codec m) m := by
  cases e with
  | call c => exact c.run_traffic codec m
  | invalidate tags => rfl
  | deleteTags tags => rfl

theorem after_traffic (codec : Codec α) (past : List (Event α ε)) (m : Memory) :
    after codec past m = BinCall.after Memory.step (traffic codec past m) m := by
  induction past generalizing m with
  | nil => rfl
  | cons e rest ih =>
    rw [traffic, BinCall.after_append, ← apply_calls]
    exact ih (e.apply codec m)

theorem not_strikes (h : ∀ b ∈ traffic codec past m, ¬ b.Touches k tags) :
    ∀ e ∈ past, ¬ e.Strikes tags := by
  induction past generalizing m with
  | nil => simp
  | cons d rest ih =>
    rw [traffic] at h
    intro e he hs
    rcases List.mem_cons.mp he with rfl | he
    · cases e with
      | call c => exact hs
      | invalidate named => exact h (.invalidate named) (by simp [calls]) hs
      | deleteTags named => exact h (.deleteTags named) (by simp [calls]) hs
    · exact ih (fun b hb => h b (List.mem_append_right _ hb)) e he hs

/-- A write that nothing has touched since was that of a call whose tags were not named since. -/
theorem exists_writer (h : traffic codec past m = front ++ .set k item :: back)
    (hback : ∀ b ∈ back, ¬ b.Touches k item.tags) :
    ∃ before u between, past = before ++ call u :: between ∧
      BinCall.set k item ∈ u.traffic codec (after codec before m) ∧
      ∀ e ∈ between, ¬ e.Strikes item.tags := by
  induction past generalizing m front with
  | nil => simp [traffic] at h
  | cons e rest ih =>
    have hlater : ∀ front, traffic codec rest (e.apply codec m) = front ++ .set k item :: back →
        ∃ before u between, e :: rest = before ++ call u :: between ∧
          BinCall.set k item ∈ u.traffic codec (after codec before m) ∧
          ∀ d ∈ between, ¬ d.Strikes item.tags := by
      intro front hrest
      obtain ⟨before, u, between, rfl, hu, hb⟩ := ih hrest
      exact ⟨e :: before, u, between, rfl, hu, hb⟩
    rw [traffic] at h
    -- The write is asked by a later event or by this one.
    rcases List.append_eq_append_iff.mp h with ⟨mid, -, hrest⟩ | ⟨mid, hcalls, hrest⟩
    · exact hlater mid hrest
    · cases mid with
      | nil => exact hlater [] hrest.symm
      | cons b mid =>
        obtain ⟨rfl, rfl⟩ := List.cons.inj hrest
        have hmem : BinCall.set k item ∈ e.calls codec m := by simp [hcalls]
        cases e with
        | call u =>
          have hrest := not_strikes fun b hb => hback b (List.mem_append_right _ hb)
          exact ⟨[], u, rest, rfl, hmem, hrest⟩
        | invalidate tags => simp [calls] at hmem
        | deleteTags tags => simp [calls] at hmem

/-! ## Asking twice -/

/-- A result that was just stored is served to the next call for its key. -/
theorem served_again (hs : m.Sound) (hku : key u.sql u.params = .ok k) (hkc : key c.sql c.params = .ok k)
    (hm : u.found? codec k m = none) (hf : u.filed? codec = some item)
    (hd : codec.decode item.data = some value) (hx : item.isExpired c.now = false) :
    (c.run codec (u.run codec m).2.2).1 = ⟨.ok value, false⟩ := by
  obtain ⟨-, -, -, -, hage, -, hz⟩ := Call.filed?_some hf
  have hbin : (u.run codec m).2.2 = (m.get u.now k).2.set k item := by
    rw [Call.run_missed hku hm, Call.keep, hf]
    rfl
  have hget : (Storage.get c.now k ((m.get u.now k).2.set k item)).1 = .ok (.fresh item) :=
    congrArg Except.ok (Memory.get_of_set (hs.get u.now k) (hage ▸ hz) hx)
  rw [hbin, Call.run_served hkc (Call.found?_eq_some_iff.mpr ⟨item, hget, hd⟩)]

/-- The queries among some events have digests that tell them apart. -/
def CollisionFree (events : List (Event α ε)) : Prop :=
  ∀ u v, call u ∈ events → call v ∈ events → ∀ cs ds, encoding u.sql u.params = .ok cs →
    encoding v.sql v.params = .ok ds → Separate cs ds

end Event

open Event

/-- A call answers what the database answers, or it is served. Then an earlier call with the same SQL
and the same text of parameters executed its query with success, and this is its result. Its age was
not zero and has not run out, and none of its tags was named since. Over every kind of bin, a call
reports once to the collector; it answers what the database answers when the bin or the codec fails;
and it writes neither failures nor results of age zero. -/
theorem served_result_is_sound (codec : Codec α)
    (hcodec : ∀ value data, codec.encode value = some data → codec.decode data = some value)
    (name : String) (capacity : Nat) (past : List (Event α ε)) (c : Call α ε)
    (hn : Memory.spent (traffic codec past (Memory.new name capacity)) (Memory.new name capacity) < 2 ^ 64)
    (hfree : CollisionFree (past ++ [call c])) :
    let answer := (c.run codec (after codec past (Memory.new name capacity))).1
    (answer = c.asked ∨
      ∃ before u between value, past = before ++ call u :: between ∧
        (u.run codec (after codec before (Memory.new name capacity))).1 = ⟨.ok value, true⟩ ∧
        u.execute = .ok value ∧ answer = ⟨.ok value, false⟩ ∧ u.sql = c.sql ∧
        (∃ ps, paramText u.params = .ok ps ∧ paramText c.params = .ok ps) ∧
        (∀ e ∈ between, ¬ e.Strikes u.tags) ∧ u.maxAge ≠ .zero ∧
        ∀ n, u.maxAge = .seconds n → c.now.toNat < u.finished.toNat + n.toNat) ∧
    ∀ {β : Type} [Storage β] (bin : β),
      (c.run codec bin).2.1 = c.collector.record ⟨[], c.tags, c.maxAge, true⟩ ∧
      (c.Hindered codec bin → (c.run codec bin).1 = c.asked) ∧
      ((∃ e, c.execute = .error e) ∨ c.maxAge = .zero → (c.run codec bin).2.2 = c.looked bin) := by
  intro answer
  refine ⟨?_, fun bin => ⟨c.run_told codec bin, Call.run_of_hindered,
    fun h => Call.run_looked (Call.filed?_eq_none h)⟩⟩
  rcases c.run_cases codec (after codec past (Memory.new name capacity)) with
    ⟨-, he⟩ | ⟨k, hk, ⟨value, hfound, he⟩ | ⟨-, he⟩⟩
  · exact .inl (congrArg Prod.fst he)
  · refine .inr ?_
    obtain ⟨item, hget, hdecode⟩ := Call.found?_eq_some_iff.mp hfound
    rw [after_traffic] at hget
    obtain ⟨⟨front, back, w, htraffic, ⟨rfl, -⟩, hback⟩, hfresh⟩ :=
      Memory.untouched_of_fresh hn (Except.ok.inj hget)
    obtain ⟨before, u, between, hpast, hu, hstrikes⟩ := exists_writer htraffic hback
    obtain ⟨huk, hfiled, hran⟩ := Call.set_mem_traffic hu
    obtain ⟨stored, hexecute, hencode, htags, hage, hcreated, hz⟩ := Call.filed?_some hfiled
    obtain rfl : stored = value := Option.some.inj ((hcodec _ _ hencode).symm.trans hdecode)
    have hsame := eq_of_key_eq huk hk (hfree u c (by simp [hpast]) (by simp))
    refine ⟨before, u, between, stored, hpast, ?_, hexecute, congrArg Prod.fst he, hsame.1, hsame.2,
      htags ▸ hstrikes, hz, ?_⟩
    · rw [hran, Call.asked, hexecute]
    · intro n hn
      rw [← hcreated]
      exact Item.lt_of_not_expired (Bool.not_eq_true _ ▸ hfresh) (hage.trans hn)
  · exact .inl (congrArg Prod.fst he)

/-- A row is asked for, tags that nothing carries are invalidated, and the row is asked for again within
its age. It is served, though the database would fail by now. -/
theorem served_result_is_sound_row :
    let tags : TagSet := ⟨[⟨"node:1", by decide⟩], by simp⟩
    let other : TagSet := ⟨[⟨"node:2", by decide⟩], by simp⟩
    let u : Call String String :=
      ⟨"SELECT title FROM node WHERE id = ?", [.integer 1], tags, .seconds 60, .ok "Start", [], 0, 0⟩
    let c : Call String String := { u with execute := .error "down", now := 59 }
    let start := Memory.new "query" 8
    let past := [call u, invalidate other]
    (∀ value data, Codec.text.encode value = some data → Codec.text.decode data = some value) ∧
      Memory.spent (traffic Codec.text past start) start < 2 ^ 64 ∧ CollisionFree (past ++ [call c]) ∧
      (c.run Codec.text (after Codec.text past start)).1 = ⟨.ok "Start", false⟩ := by
  intro tags other u c start past
  have hcodec : ∀ value data, Codec.text.encode value = some data → Codec.text.decode data = some value :=
    fun _ _ => Codec.decode_encode_text
  have hfree : CollisionFree (past ++ [call c]) := by
    intro v w hv hw cs ds hcs hds _
    have hquery : ∀ {v : Call String String}, call v ∈ past ++ [call c] →
        v.sql = u.sql ∧ v.params = u.params := by
      intro v hv
      simp only [past, List.cons_append, List.nil_append, List.mem_cons, List.not_mem_nil, or_false,
        call.injEq, reduceCtorEq, false_or] at hv
      rcases hv with rfl | rfl <;> exact ⟨rfl, rfl⟩
    rw [(hquery hv).1, (hquery hv).2] at hcs
    rw [(hquery hw).1, (hquery hw).2] at hds
    exact Except.ok.inj (hcs.symm.trans hds)
  obtain ⟨k, hk⟩ : ∃ k, key u.sql u.params = .ok k := exists_key u.sql rfl rfl
  have hraised : (u.run Codec.text start).2.2.raised other = [] := by
    rw [Call.run_missed hk rfl]
    rfl
  have hafter : after Codec.text past start = (u.run Codec.text start).2.2 :=
    Memory.invalidate_of_raised_nil hraised
  have hn : Memory.spent (traffic Codec.text past start) start < 2 ^ 64 := by
    show Memory.spent (u.traffic Codec.text start ++ [.invalidate other]) start < 2 ^ 64
    rw [Memory.spent_append, u.spent_traffic, ← u.run_traffic]
    show 0 + ((Memory.raised other _).length + 0) < 2 ^ 64
    rw [hraised]
    decide
  have hserved : (c.run Codec.text (u.run Codec.text start).2.2).1 = ⟨.ok "Start", false⟩ :=
    served_again (Memory.Sound.new "query" 8) hk hk rfl rfl (Codec.decode_encode_text rfl) rfl
  have hhit : (c.run Codec.text (after Codec.text past start)).1.executed = false := by
    rw [hafter, hserved]
  refine ⟨hcodec, hn, hfree, ?_⟩
  obtain ⟨hasked | ⟨before, v, between, value, hpast, -, hexecute, hanswer, -⟩, -⟩ :=
    served_result_is_sound Codec.text hcodec "query" 8 past c hn hfree
  · rw [hasked] at hhit
    cases hhit
  · have hv : call v ∈ past := by simp [hpast]
    obtain rfl : v = u := by simpa [past] using hv
    obtain rfl := Except.ok.inj hexecute
    exact hanswer

end Query
end TaggedCache
