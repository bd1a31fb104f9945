import TaggedCache.Proofs.Body
import TaggedCache.Proofs.PageProbe

/-!
# Pages served from a bin in memory

Visits of the page cache are mixed with invalidations and deletions of tags on its bin. A page that is
served without its handler is one that a handler made for the same address, it was allowed to be stored,
none of its tags was named since, and it has not expired (`served_page_is_sound`).
-/

namespace TaggedCache
namespace Page

/-- What happens to a page cache and its bin. -/
inductive Event where
  | visit (v : Visit)
  | invalidate (tags : TagSet)
  | deleteTags (tags : TagSet)
  | clear

namespace Event

/-- The bin after an event. -/
def apply (layer : Layer) : Event → Memory → Memory
  | visit v, m => (layer.visit v m).2
  | invalidate tags, m => m.invalidate tags
  | deleteTags tags, m => m.deleteTags tags
  | clear, m => m.clear

def after (layer : Layer) (past : List Event) (m : Memory) : Memory :=
  past.foldl (fun m e => e.apply layer m) m

/-- How many counters an event raises. -/
def increments (m : Memory) : Event → Nat
  | invalidate tags => (m.raised tags).length
  | _ => 0

/-- How often counters are raised by some events. -/
def spent (layer : Layer) : List Event → Memory → Nat
  | [], _ => 0
  | e :: rest, m => e.increments m + spent layer rest (e.apply layer m)

/-- The event invalidates or removes what carries these tags. -/
def Strikes (tags : TagSet) : Event → Prop
  | visit _ => False
  | invalidate named => tags.Meets named
  | deleteTags named => tags.Meets named
  | clear => True

variable {layer : Layer} {past : List Event} {e : Event} {m start : Memory} {n : Nat} {k : String}
  {i : Item}

theorem after_concat : after layer (past ++ [e]) m = e.apply layer (after layer past m) :=
  List.foldl_concat _ _ _ _

theorem spent_concat : spent layer (past ++ [e]) m =
    spent layer past m + e.increments (after layer past m) := by
  induction past generalizing m with
  | nil => simp [spent, after]
  | cons d rest ih =>
    rw [List.cons_append, spent, ih, spent, Nat.add_assoc]
    rfl

/-! ## What is held was filed, and not struck since -/

/-- An item is a page that was filed under its key and not struck since, or a list of contexts. -/
def Intact (layer : Layer) (start : Memory) (past : List Event) (k : String) (i : Item) : Prop :=
  (∃ before u between f, past = before ++ visit u :: between ∧
      layer.filed? u (after layer before start) = some f ∧ k = f.key ∧ i = f.item u.finished ∧
      ∀ e ∈ between, ¬ e.Strikes i.tags) ∨
    ∃ (f : Filing) (now : UInt64), i = f.list now

theorem Intact.concat (h : Intact layer start past k i) (he : ¬ e.Strikes i.tags) :
    Intact layer start (past ++ [e]) k i := by
  rcases h with ⟨before, u, between, f, rfl, hf, hk, hi, hb⟩ | hlist
  · refine .inl ⟨before, u, between ++ [e], f, by simp, hf, hk, hi, ?_⟩
    intro d hd
    rcases List.mem_append.mp hd with hd | hd
    · exact hb d hd
    · exact List.mem_singleton.mp hd ▸ he
  · exact .inr hlist

/-- What holds of a bin in the midst of a run. -/
structure Good (layer : Layer) (start : Memory) (past : List Event) : Prop where
  sound : (after layer past start).Sound
  within : (after layer past start).Within (spent layer past start)
  intact : (after layer past start).view.Vouched (Intact layer start past)

theorem Good.visit (h : Good layer start past) (v : Visit) : Good layer start (past ++ [visit v]) where
  sound := by
    rw [after_concat]
    exact sound_visit Memory.holding h.sound
  within := by
    rw [after_concat, spent_concat]
    exact (sound_visit (Memory.holding_within _) ⟨h.sound, h.within⟩).2
  intact := by
    rw [after_concat]
    rintro ⟨k, i, stale⟩ hm rfl
    rcases holds_visit Memory.holding h.sound hm with ⟨f, hf, ⟨rfl, rfl⟩ | ⟨rfl, rfl⟩⟩ | ⟨hold, -⟩
    · exact .inl ⟨past, v, [], f, rfl, hf, rfl, rfl, by simp⟩
    · exact .inr ⟨f, v.finished, rfl⟩
    · exact (h.intact _ hold rfl).concat nofun

/-- An event that is a call of the bin keeps what it does not touch. -/
theorem Good.call {c : BinCall} (h : Good layer start past)
    (hview : (after layer (past ++ [e]) start).view = ((after layer past start).view.step c).2)
    (htouch : ∀ (k : String) (i : Item), ¬ c.Touches k i.tags → ¬ e.Strikes i.tags)
    (hwrite : ∀ k i, ¬ c.Writes k i) :
    (after layer (past ++ [e]) start).view.Vouched (Intact layer start (past ++ [e])) := by
  rw [hview]
  exact h.intact.step (fun k i hi ht => hi.concat (htouch k i ht)) fun k i hw => absurd hw (hwrite k i)

theorem Good.invalidate (h : Good layer start past) (tags : TagSet)
    (hn : spent layer (past ++ [invalidate tags]) start < 2 ^ 64) :
    Good layer start (past ++ [invalidate tags]) := by
  rw [spent_concat] at hn
  constructor
  · rw [after_concat]
    exact h.sound.invalidate tags
  · rw [after_concat, spent_concat]
    exact h.within.invalidate tags
  · refine h.call (c := .invalidate tags) ?_ (fun _ _ ht => ht) nofun
    rw [after_concat]
    exact Memory.view_invalidate h.sound h.within tags hn

theorem Good.deleteTags (h : Good layer start past) (tags : TagSet) :
    Good layer start (past ++ [deleteTags tags]) := by
  constructor
  · rw [after_concat]
    exact h.sound.deleteTags tags
  · rw [after_concat, spent_concat]
    exact h.within.deleteTags h.sound tags
  · refine h.call (c := .deleteTags tags) ?_ (fun _ _ ht => ht) nofun
    rw [after_concat]
    exact Memory.view_deleteTags h.sound tags

theorem Good.clear (h : Good layer start past) : Good layer start (past ++ [clear]) := by
  constructor
  · rw [after_concat]
    exact Memory.Sound.clear _
  · rw [after_concat]
    exact fun p hp => by cases hp
  · refine h.call (c := .clear) ?_ (fun _ _ ht => ht) nofun
    rw [after_concat]
    rfl

theorem good_after (layer : Layer) (name : String) (capacity : Nat) (past : List Event)
    (hn : spent layer past (Memory.new name capacity) < 2 ^ 64) :
    Good layer (Memory.new name capacity) past := by
  induction past using List.reverseRecOn with
  | nil =>
    refine ⟨Memory.Sound.new name capacity, Memory.Within.new name capacity, ?_⟩
    exact fun e he => by cases he
  | append_singleton past e ih =>
    have h := ih (by rw [spent_concat] at hn; omega)
    cases e with
    | visit v => exact h.visit v
    | invalidate tags => exact h.invalidate tags hn
    | deleteTags tags => exact h.deleteTags tags
    | clear => exact h.clear

end Event

open Event

/-! ## Asking twice -/

/-- A page without contexts that a visit files is served to the next request for its address. -/
theorem served_again {layer : Layer} {u v : Visit} {f : Filing} {m m' : Memory} {response : Response}
    (hs : m.Sound) (hu : u.request.method = "GET") (hf : layer.filing? u = some f)
    (hmiss : lookup layer u.now u.address u.request.headers m = (none, m')) (hkey : f.key = u.address)
    (hresponse : f.record.response? = some response) (hv : v.request.method = "GET")
    (ht : v.address = u.address) (hx : (f.item u.finished).isExpired v.now = false) :
    (layer.visit v (layer.visit u m).2).1 = ⟨false, [], response⟩ := by
  have hafter : (layer.visit u m).2 = m'.set u.address (f.item u.finished) := by
    have hwrite : write u.finished f.key f.record f.about m' = (true, m'.set f.key (f.item u.finished)) := rfl
    rw [(visit_missed hu hmiss).2, hf]
    simp only
    unfold store
    rw [hwrite]
    simp only
    rw [if_pos hkey, hkey]
  have hget : (((layer.visit u m).2).get v.now v.address).1 = .fresh (f.item u.finished) := by
    rw [hafter, ht]
    exact Memory.get_of_set (sound_lookup Memory.holding hmiss hs) (filing?_storable hf).2 hx
  have hfound : Storage.get v.now v.address (layer.visit u m).2 =
      (.ok (.fresh (f.item u.finished)), ((layer.visit u m).2.get v.now v.address).2) := by
    rw [← hget]
    rfl
  exact visit_of_finds hv (.address _ _ hfound rfl) (decode?_item hf u.finished) hresponse

/-- A handler whose answer may be served again for an hour. -/
def hourly : Handled := ⟨[.record ⟨[], .empty, .seconds 3600, true⟩], .empty⟩

/-- A handler that answers with an article. -/
def article : Handled where
  reports := [.record ⟨[], .ofList [⟨"article:1", by decide⟩], .seconds 3600, true⟩]
  response := ⟨200, [], .ofBytes [0x68, 0x69]⟩

theorem cacheability_article :
    cacheability article = some ⟨[], .ofList [⟨"article:1", by decide⟩], .seconds 3600, true⟩ := by
  refine cacheability_reports ?_ (by decide)
  show Collector.collect [.record _] = _
  rw [Collector.collect_record, Metadata.addPart, Metadata.empty, TagSet.empty_union]
  rfl

/-- A visit of the root at the beginning of time, which this handler answers. -/
def reading : Visit := ⟨0, 0, ⟨"GET", ⟨"/", none⟩, []⟩, article⟩

/-! ## Answers without the handler -/

/-- A page served without its handler was made by a handler that ran for an earlier `GET` of the same
address and answered with status 200. Its cacheability allowed to store it. Since then no event named
one of its tags, the bin was not cleared, and its age has not run out. -/
theorem served_page_is_sound (layer : Layer) (name : String) (capacity : Nat) (past : List Event)
    (v : Visit) (hn : spent layer past (Memory.new name capacity) < 2 ^ 64)
    (hplain : ∀ u, visit u ∈ past ++ [visit v] → Plain u.request.target) :
    let served := (layer.visit v (after layer past (Memory.new name capacity))).1
    served.handled = false → v.request.method = "GET" ∧
      ∃ before u between m, past = before ++ visit u :: between ∧
        u.request.method = "GET" ∧ u.request.target = v.request.target ∧
        (layer.visit u (after layer before (Memory.new name capacity))).1.handled = true ∧
        u.handler.response.status = 200 ∧ u.handler.response.body.lastError? = none ∧
        cacheability u.handler = some m ∧ m.cacheable = true ∧ m.maxAge ≠ .zero ∧
        served.response.status = 200 ∧
        served.response.body = .ofBytes u.handler.response.body.bytes ∧
        (∀ e ∈ between, ¬ e.Strikes m.tags) ∧
        ∀ n, m.maxAge = .seconds n → v.now.toNat < u.finished.toNat + n.toNat := by
  intro served hserved
  have hgood := good_after layer name capacity past hn
  have ⟨hget, hanswer⟩ := of_not_handled hserved
  obtain ⟨key, item, record, -, hheld, hfresh, hd, hresponse, hwhere⟩ := lookup_some Memory.holding hanswer
  refine ⟨hget, ?_⟩
  rcases hgood.intact _ hheld rfl with
    ⟨before, u, between, f, hpast, hfiled, rfl, rfl, hstrikes⟩ | ⟨f, now, rfl⟩
  · have ⟨huget, huran, hf⟩ := ran_of_filed hfiled
    obtain ⟨hm, hstore, hstatus, ⟨bytes, hbytes, hrecord⟩, -⟩ := filing?_some hf
    have ⟨hfits, hall⟩ := Body.buffer_eq_complete_iff.mp hbytes
    rw [decode?_item hf] at hd
    obtain rfl := Option.some.inj hd
    rw [hrecord] at hresponse
    have ⟨hrs, hrb⟩ := Record.response?_ofResponse hresponse
    have hu : Plain u.request.target := hplain u (by simp [hpast])
    have ht : u.request.target = v.request.target := by
      rcases hwhere with hk | ⟨-, contexts, -, -, hk⟩
      · exact (target_of_address hf hu (hplain v (by simp)) hk).1
      · exact (target_of_variant hf hu (hplain v (by simp)) hk).1
    refine ⟨before, u, between, f.about, hpast, huget, ht, huran, hstatus, hfits.faultless, hm,
      (Bool.and_eq_true_iff.mp hstore).1, (filing?_storable hf).2, hrs, ?_, hstrikes, ?_⟩
    · rw [← hall]
      exact hrb
    · exact fun n hn => Item.lt_of_not_expired hfresh hn
  · rw [decode?_list] at hd
    obtain rfl := Option.some.inj hd
    cases hresponse

/-- The root is asked for, and then another article changes. -/
def edited : List Event := [visit reading, invalidate (.ofList [⟨"article:2", by decide⟩])]

/-- No page depends on the other article, so no counter is raised. -/
theorem raised_edited : ((Layer.new "page").visit reading (Memory.new "page" 8)).2.raised
    (.ofList [⟨"article:2", by decide⟩]) = [] := by decide +kernel

theorem after_edited : after (.new "page") edited (.new "page" 8) =
    ((Layer.new "page").visit reading (Memory.new "page" 8)).2 := Memory.invalidate_of_raised_nil raised_edited

theorem handled_edited :
    ((Layer.new "page").visit reading (after (.new "page") edited (.new "page" 8))).1.handled = false := by
  have hkept : (((Layer.new "page").filing? reading).bind fun f : Filing => f.record.response?).isSome := by
    decide +kernel
  have hkey : ((Layer.new "page").filing? reading).map Filing.key = some root := by decide +kernel
  obtain ⟨response, hresponse⟩ := Option.isSome_iff_exists.mp hkept
  obtain ⟨f, hf, hresponse⟩ := Option.bind_eq_some_iff.mp hresponse
  rw [hf] at hkey
  have hage : (f.item 0).isExpired 0 = false := isExpired_zero (filing?_storable hf).2 rfl
  rw [after_edited,
    served_again (Memory.Sound.new "page" 8) rfl hf rfl (Option.some.inj hkey) hresponse rfl rfl hage]

/-- The root is asked for again, and its page is served as nothing on it has changed. -/
theorem served_page_is_sound_root :
    spent (.new "page") edited (.new "page" 8) < 2 ^ 64 ∧
      (∀ w, visit w ∈ edited ++ [visit reading] → Plain w.request.target) ∧
      ∃ served, ((Layer.new "page").visit reading (after (.new "page") edited (.new "page" 8))).1 = served ∧
        served.handled = false ∧ served.response.status = 200 ∧ served.response.body = .ofBytes [0x68, 0x69] := by
  have hn : spent (.new "page") edited (.new "page" 8) < 2 ^ 64 := by
    simp only [edited, spent, increments, apply, raised_edited]
    decide
  have hplain : ∀ w, visit w ∈ edited ++ [visit reading] → Plain w.request.target := by
    intro w hw
    have : w = reading := by simpa [edited] using hw
    exact this ▸ plain_root
  obtain ⟨-, before, w, between, m, hpast, -, -, -, -, -, -, -, -, hstatus, hbody, -⟩ :=
    served_page_is_sound (.new "page") "page" 8 edited reading hn hplain handled_edited
  have hw : visit w ∈ edited := by simp [hpast]
  obtain rfl : w = reading := by simpa [edited] using hw
  exact ⟨hn, hplain, _, rfl, handled_edited, hstatus, hbody⟩

end Page
end TaggedCache
