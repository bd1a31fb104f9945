import TaggedCache.Proofs.PageIsolation
import TaggedCache.Proofs.PageProbe

/-!
# Pages that are mixed up

Contexts of the same text with other values lead a request to a page that was not made for it: when a
bin misses the right read and the right write, the list of contexts of one page stands in front of another
page. So the page cache isolates requests only when the text tells the values of contexts apart
(`isolates_iff_separates`).
-/

namespace TaggedCache
namespace Page

variable {layer : Layer} {a b : Handled} {m n : Metadata} {g h : Headers} {text t : String} {f : Filing}

theorem storeKey_variant (hs : m.shouldStore = true) (hne : m.contexts ≠ [])
    (ht : layer.contextText h m.contexts = some text) :
    layer.storeKey root h 200 m = some (root ++ "#" ++ text) := by
  unfold Layer.storeKey
  rw [if_neg (by simp [hs]), if_neg hne, variantKey_eq, ht, Option.map_some]

/-- A page under one key, a list of contexts under another, and then another page under the first: both
keys give what was written last. -/
theorem get_overwritten {k l : String} {i j x : Item} (hne : k ≠ l) (hi : i.maxAge ≠ .zero)
    (hj : j.maxAge ≠ .zero) (hx : x.maxAge ≠ .zero) (hjc : j.created = 0) (hxc : x.created = 0) :
    let m := (((((Memory.new "page" 2).get 0 l).2.set k i).set l j).set k x)
    (m.get 0 l).1 = .fresh j ∧ ((m.get 0 l).2.get 0 k).1 = .fresh x := by
  intro m
  have hspent : Memory.spent [.get 0 l, .set k i, .set l j, .set k x] (Memory.new "page" 2) < 2 ^ 64 := by
    simp [Memory.spent, Memory.increments]
  have hview : m.view = BinCall.after Shelf.step [.get 0 l, .set k i, .set l j, .set k x] (.empty 2) :=
    Memory.view_run hspent
  have hslots : m.view = ⟨2, [⟨k, x, false⟩, ⟨l, j, false⟩]⟩ := by
    rw [hview]
    simp [BinCall.after, Shelf.step, Shelf.get, Shelf.set, Shelf.empty, Shelf.without, hi, hj, hx, hne,
      hne.symm]
  have hj0 := isExpired_zero hj hjc
  have hx0 := isExpired_zero hx hxc
  constructor
  · rw [Memory.get_eq, hslots]
    simp [Shelf.get, hne, hj0]
  · have hnext : (m.get 0 l).2.view = (m.view.get 0 l).2 := congrArg Prod.snd (Memory.view_get 0 l m)
    rw [Memory.get_eq, hnext, hslots]
    simp [Shelf.get, Shelf.without, hne, hne.symm, hx0]

variable {m' : Memory} {e : BinFault} {r w : List Bool} {record : Record}

theorem write_good (now : UInt64) (key : String) :
    write now key record m (⟨m', e, r, false :: w⟩ : Faulty Memory) =
      (true, ⟨m'.set key ⟨record.encode, m.tags, m.maxAge, now⟩, e, r, w⟩) := rfl

theorem write_bad (now : UInt64) (key : String) :
    write now key record m (⟨m', e, r, true :: w⟩ : Faulty Memory) =
      (false, ⟨m', e, r, w⟩) := rfl

/-- An empty bin with room for two items, whose second read and whose fourth write fail. -/
def shaky : Faulty Memory :=
  ⟨Memory.new "page" 2, .unavailable "busy", [false, true], [false, false, false, true]⟩

/-- The first visit files its page and the list of its contexts. -/
theorem visit_shaky (hf : layer.filing? (probe g a) = some f) (hne : f.key ≠ root) :
    (layer.visit (probe g a) shaky).2 =
      ⟨(((Memory.new "page" 2).get 0 root).2.set f.key (f.item 0)).set root (f.list 0), shaky.fault, [true],
        [false, true]⟩ := by
  have hl : lookup layer 0 root g shaky =
      (none, ⟨((Memory.new "page" 2).get 0 root).2, shaky.fault, [true], shaky.writes⟩) := rfl
  have hget : (probe g a).request.method = "GET" := rfl
  rw [(visit_missed hget hl).2, hf]
  show store 0 root f.key f.about.contexts f.record f.about _ = _
  unfold store shaky
  rw [write_good]
  simp only
  rw [if_neg hne, write_good]
  rfl

/-- The second visit does not see the list. It files its page, and no list of its own. -/
theorem visit_blind (hf : layer.filing? (probe h b) = some f) (hne : f.key ≠ root) :
    let bin : Faulty Memory := ⟨m', e, [true], [false, true]⟩
    (layer.visit (probe h b) bin).2 = ⟨m'.set f.key (f.item 0), e, [], []⟩ ∧
      layer.filed? (probe h b) bin = some f := by
  intro bin
  have hl : lookup layer 0 root h bin = (none, ⟨m', e, [], [false, true]⟩) := rfl
  have hget : (probe h b).request.method = "GET" := rfl
  constructor
  · rw [(visit_missed hget hl).2, hf]
    show store 0 root f.key f.about.contexts f.record f.about _ = _
    unfold store
    rw [write_good]
    simp only
    rw [if_neg hne, write_bad]
    rfl
  · unfold Layer.filed?
    rw [if_neg (not_not_intro hget)]
    show (match lookup layer 0 root h bin with
      | (some _, _) => none
      | (none, bin) =>
        (layer.filing? (probe h b)).filter fun f : Filing => (write 0 f.key f.record f.about bin).1) = _
    rw [hl, hf]
    simp [Option.filter, write_good]

theorem get_good {key : String} {now : UInt64} {item : Item} (hi : (m'.get now key).1 = .fresh item) :
    Storage.get now key (⟨m', e, [], w⟩ : Faulty Memory) =
      (.ok (.fresh item), ⟨(m'.get now key).2, e, [], w⟩) := by
  rw [← hi]
  rfl

/-- The third visit follows the list of one page to another page. -/
theorem visit_mixed {i j : Item} {contexts : List String} {key : String} {response : Response}
    (hi : (m'.get 0 root).1 = .fresh i) (hlist : Record.decode? i.data = some (.vary contexts))
    (hkey : layer.variantKey root g contexts = some key)
    (hj : ((m'.get 0 root).2.get 0 key).1 = .fresh j) (hpage : Record.decode? j.data = some record)
    (hr : record.response? = some response) :
    let bin : Faulty Memory := ⟨m', e, [], []⟩
    (layer.visit (probe g a) bin).1.handled = false ∧ layer.servedKey? 0 root g bin = some key := by
  intro bin
  have hlisted : Storage.get 0 root bin = (.ok (.fresh i), ⟨(m'.get 0 root).2, e, [], []⟩) := get_good hi
  constructor
  · have hvisit : (layer.visit (probe g a) bin).1 = ⟨false, [], response⟩ :=
      visit_of_finds rfl (.variant i j contexts key _ _ hlisted hlist hkey (get_good hj) rfl) hpage hr
    rw [hvisit]
  · unfold Layer.servedKey?
    rw [read_of_fresh hlisted, hlist]
    exact hkey

/-- The text of contexts is empty only when there are none. -/
theorem contextText_empty {contexts : List String} (ht : layer.contextText h contexts = some "") :
    contexts = [] := by
  obtain ⟨resolve, -, ht⟩ := Option.bind_eq_some_iff.mp ht
  obtain ⟨parts, hp, hj⟩ := Option.bind_eq_some_iff.mp ht
  cases contexts with
  | nil => rfl
  | cons t rest =>
    rw [List.mapM_cons] at hp
    obtain ⟨part, hpart, hrest⟩ := Option.bind_eq_some_iff.mp hp
    obtain ⟨more, -, hmore⟩ := Option.bind_eq_some_iff.mp hrest
    obtain rfl := Option.some.inj hmore
    obtain ⟨value, -, rfl⟩ := Option.map_eq_some_iff.mp hpart
    have hl := congrArg String.toList (Option.some.inj hj)
    cases more with
    | nil => simp [Text.join, Text.joinChars] at hl
    | cons part more => simp [Text.join, Text.joinChars] at hl

theorem contexts_ne_nil (hm : layer.contextText g m.contexts = some text)
    (hn : layer.contextText h n.contexts = some text) (hne : n.contexts ≠ []) : m.contexts ≠ [] := by
  intro hnil
  rw [hnil] at hm
  obtain ⟨resolve, -, hm⟩ := Option.bind_eq_some_iff.mp hm
  obtain rfl : "" = text := Option.some.inj hm
  exact hne (contextText_empty hn)

theorem separates_of_isolates (hi : layer.Isolates) : layer.Separates := by
  intro a b m n g h text ha hma hb hnb hg hh t ht
  have hnc : n.contexts ≠ [] := List.ne_nil_of_mem ht
  have hmc := contexts_ne_nil hg hh hnc
  obtain ⟨f₁, r₁, hf₁, hk₁, rfl, -⟩ := filing?_probe ha (storeKey_variant hma hmc hg)
  obtain ⟨f₂, r₂, hf₂, hk₂, rfl, hr₂⟩ := filing?_probe hb (storeKey_variant hnb hnc hh)
  have hkey : f₁.key = f₂.key := hk₁.trans hk₂.symm
  have hne : f₂.key ≠ root := by
    rw [hk₂]
    intro he
    have := congrArg (fun s => s.toList.length) he
    simp at this
  have hvariant : layer.variantKey root g f₁.about.contexts = some f₂.key := by
    rw [variantKey_eq, hg, Option.map_some, hk₂]
  have hz₁ := (filing?_storable hf₁).2
  have hz₂ := (filing?_storable hf₂).2
  -- The bin after both visits holds the list of the first and the page of the second.
  have h₁ := visit_shaky hf₁ (hkey ▸ hne)
  rw [hkey] at h₁
  obtain ⟨h₂, hfiled⟩ := visit_blind hf₂ hne
  rw [← h₁] at h₂ hfiled
  have hget := get_overwritten (i := f₁.item 0) (j := f₁.list 0) (x := f₂.item 0) hne hz₁ hz₁ hz₂ rfl rfl
  have hvisit := visit_mixed (a := a) (e := shaky.fault) hget.1 (decode?_list f₁ 0) hvariant hget.2
    (decode?_item hf₂ 0) hr₂
  simp only [← h₂] at hvisit
  have hempty : ∀ k i, ¬ Memory.Held shaky.bin k i := fun k i hi => by cases hi
  have hplain : ∀ u ∈ [probe g a, probe h b] ++ [probe g a],
      u.request.method = "GET" ∧ Plain u.request.target := by
    intro u hu
    simp only [List.cons_append, List.nil_append, List.mem_cons, List.not_mem_nil, or_false] at hu
    rcases hu with rfl | rfl | rfl
    · exact ⟨rfl, plain_root⟩
    · exact ⟨rfl, plain_root⟩
    · exact ⟨rfl, plain_root⟩
  obtain ⟨key, u, f, hserved, hlast, -, -, hagree⟩ :=
    hi (Faulty Memory) _ _ (Faulty.holding Memory.holding) shaky (Memory.Sound.new "page" 2) hempty
      [probe g a, probe h b] (probe g a) hplain hvisit.1
  obtain rfl : f₂.key = key := Option.some.inj (hvisit.2.symm.trans hserved)
  have hlast₂ : layer.lastFiled? f₂.key [probe g a, probe h b] shaky = some (probe h b, f₂) := by
    show layer.lastFiled? f₂.key ([probe g a] ++ [probe h b]) shaky = _
    rw [lastFiled?_concat, Layer.filedUnder?]
    show ((layer.filed? (probe h b) (layer.visit (probe g a) shaky).2).bind _).or _ = _
    rw [hfiled, Option.bind_some, if_pos rfl, Option.some_or]
  obtain ⟨rfl, rfl⟩ := Prod.mk.inj (Option.some.inj (hlast₂.symm.trans hlast))
  exact hagree t ht

/-- Pages are served only to requests with the same values of their contexts exactly when the texts of
contexts tell their values apart. -/
theorem isolates_iff_separates (layer : Layer) : layer.Isolates ↔ layer.Separates :=
  ⟨separates_of_isolates, isolates_of_separates⟩

/-- A page cache that varies by the user and the languages of a request. -/
def personal : Layer :=
  ⟨"page", defaultBodyLimit, some (.ofFields [("user", "x-user"), ("languages", "accept-language")])⟩

/-- A handler that reports both contexts. -/
def greeting : Handled :=
  ⟨[.record ⟨[.context "user", .context "languages"], .empty, .permanent, true⟩], .empty⟩

theorem cacheability_greeting :
    cacheability greeting = some ⟨[.context "user", .context "languages"], .empty, .permanent, true⟩ := by
  refine cacheability_reports ?_ (by decide)
  rw [Collector.collect_record, Metadata.addPart, Metadata.empty, TagSet.empty_union]
  rfl

/-- The user's name goes on like the languages, or the languages go on like themselves. -/
theorem personal_not_isolated : ¬ personal.Isolates := by
  intro hi
  have h := separates_of_isolates hi greeting greeting _ _
    [("x-user", .ofText "alice"), ("accept-language", .ofText "en:[languages]=fr")]
    [("x-user", .ofText "alice:[languages]=en"), ("accept-language", .ofText "fr")]
    "[user]=alice:[languages]=en:[languages]=fr" cacheability_greeting rfl cacheability_greeting rfl
    (by decide) (by decide) "user" (by decide)
  exact absurd h (by decide)

end Page
end TaggedCache
