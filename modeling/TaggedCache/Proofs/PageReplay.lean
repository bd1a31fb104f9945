import TaggedCache.Proofs.PageCacheability
import TaggedCache.Proofs.PageTransparency

/-!
# Stored pages replayed

A stored page always reads back, as the response that was sent when it was stored: with the same status, the same
body, and all fields whose values have a text (`hit_replays_miss`). A field with another value is sent once and
then lost (`accent_is_lost`).
-/

namespace TaggedCache
namespace Page

/-- A response served from the bin is the one sent when the page was stored, but for its mark and for the fields
whose values are not plain text. -/
structure Replays (hit miss : Response) : Prop where
  status : hit.status = miss.status
  body : hit.body = miss.body
  headers : hit.headers.remove Record.markName =
    (miss.headers.remove Record.markName).filter fun h => h.2.all Headers.isPrintable
  hit : marks hit = [(Record.markName, .ofText "HIT")]
  miss : marks miss = [(Record.markName, .ofText "MISS")]

section

variable {β : Type} [Storage β] {layer : Layer} {u v : Visit} {bin : β} {f : Filing} {m : Metadata}
  {hit : Response} {record : Record} {past : List Visit} {key : String} {sound : β → Prop}
  {holds : β → String → Item → Prop}

/-! ## The response of a page -/

theorem text?_isSome (value : Bytes) : (Headers.text? value).isSome = value.all Headers.isPrintable := by
  unfold Headers.text?
  split
  · next h => exact h.symm
  · next h => exact (Bool.not_eq_true _ ▸ h).symm

/-- The response of a page that is filed is the one sent when it is filed. -/
theorem replays_outgoing (hf : layer.filing? u = some f) (hn : u.handler.response.headers.Named) :
    ∃ hit, f.record.response? = some hit ∧ Replays hit (layer.outgoing u) := by
  obtain ⟨bytes, hbuffer, hout⟩ := outgoing_kept hf
  obtain ⟨-, -, -, ⟨bytes', hbuffer', hrecord⟩, -⟩ := filing?_some hf
  obtain rfl := Body.Buffered.complete.inj (hbuffer.symm.trans hbuffer')
  have hfields := Record.storedHeaders?_ofResponse (named_annotated hn f.about)
  simp only [text?_isSome] at hfields
  rw [hrecord, hout]
  simp only [Record.ofResponse, Record.response?, String.toList_ofList, Base64.decode?_encode,
    Option.bind_eq_bind, Option.bind_some, hfields]
  refine ⟨_, rfl, rfl, rfl, ?_, Headers.filter_name_insert _ _ _, Headers.filter_name_insert _ _ _⟩
  rw [Headers.remove_insert, Headers.remove_insert, Headers.remove, Headers.remove, List.filter_filter,
    List.filter_filter]
  simp only [Bool.and_comm]

/-! ## Where a hit comes from -/

theorem ran_filed (h : layer.filed? u bin = some f) :
    (layer.visit u bin).1.response = layer.outgoing u ∧
      (f.key, f.item u.finished) ∈ BinCall.written (layer.asks u bin) := by
  have ⟨hget, hran, hf⟩ := ran_of_filed h
  have hmissed : (lookup layer u.now u.address u.request.headers bin).1 = none := by
    cases hl : (lookup layer u.now u.address u.request.headers bin).1 with
    | none => rfl
    | some response =>
      rw [visit_hit hget (Prod.ext hl rfl)] at hran
      cases hran
  constructor
  · rw [visit_ran hget (Prod.ext hmissed rfl)]
  · rw [written_ran hget hmissed, hf]
    simp [written_calls]

theorem lastFiled?_split (h : layer.lastFiled? key past bin = some (u, f)) :
    ∃ before between, past = before ++ u :: between ∧ f.key = key ∧
      layer.filed? u (layer.after before bin) = some f := by
  induction past generalizing bin with
  | nil => cases h
  | cons v rest ih =>
    rcases Option.or_eq_some_iff.mp h with hrest | ⟨-, hv⟩
    · obtain ⟨before, between, rfl, hkey, hfiled⟩ := ih hrest
      exact ⟨v :: before, between, rfl, hkey, hfiled⟩
    · obtain ⟨rfl, hkey, hfiled⟩ := filedUnder?_some hv
      exact ⟨[], rest, rfl, hkey, hfiled⟩

/-- An answer from the bin is the page that was last filed under its key. -/
theorem hit_filed (hb : Holding sound holds) (hs : sound bin) (hempty : ∀ k i, ¬ holds bin k i)
    (h : (layer.visit v (layer.after past bin)).1.handled = false) :
    ∃ key before u between f,
      layer.servedKey? v.now v.address v.request.headers (layer.after past bin) = some key ∧
      past = before ++ u :: between ∧ f.key = key ∧ layer.filed? u (layer.after before bin) = some f ∧
      f.record.response? = some (layer.visit v (layer.after past bin)).1.response := by
  obtain ⟨key, item, record, hkey, hi, -, hd, hresponse, -⟩ := lookup_some hb (of_not_handled h).2
  have hsource : layer.Sourced past bin key item := sourced_after hb hs hempty past key item hi
  rcases hsource with ⟨u, f, hlast, rfl⟩ | ⟨u, f, hf, rfl⟩
  · obtain ⟨before, between, hpast, hfkey, hfiled⟩ := lastFiled?_split hlast
    rw [decode?_item (ran_of_filed hfiled).2.2] at hd
    obtain rfl := Option.some.inj hd
    exact ⟨key, before, u, between, f, hkey, hpast, hfkey, hfiled, hresponse⟩
  · rw [decode?_list] at hd
    obtain rfl := Option.some.inj hd
    cases hresponse

end

/-! ## Hits replay -/

/-- A visit that stores a page has marked its response, and every visit that finds the page, in whatever bin, is
answered with this response again. And in every run over every kind of bin, an answer from the bin is the response
that an earlier visit sent when it stored a page under the key that is served. -/
theorem hit_replays_miss (layer : Layer) :
    (∀ (β : Type) [Storage β] (u : Visit) (bin : β) (key : String) (page : Item)
      (more : List (String × Item)),
      u.handler.response.headers.Named → BinCall.written (layer.asks u bin) = (key, page) :: more →
      ∀ (γ : Type) [Storage γ] (v : Visit) (found : γ), v.request.method = "GET" →
        layer.Finds v found page.data → (layer.visit v found).1.handled = false ∧
          Replays (layer.visit v found).1.response (layer.visit u bin).1.response) ∧
    (∀ (β : Type) [Storage β] (sound : β → Prop) (holds : β → String → Item → Prop), Holding sound holds →
      ∀ bin, sound bin → (∀ k i, ¬ holds bin k i) → ∀ (past : List Visit) (v : Visit),
        (∀ u ∈ past, u.handler.response.headers.Named) →
        (layer.visit v (layer.after past bin)).1.handled = false →
        ∃ key page before u between,
          layer.servedKey? v.now v.address v.request.headers (layer.after past bin) = some key ∧
          past = before ++ u :: between ∧
          (key, page) ∈ BinCall.written (layer.asks u (layer.after before bin)) ∧
          Replays (layer.visit v (layer.after past bin)).1.response
            (layer.visit u (layer.after before bin)).1.response) := by
  constructor
  · intro β _ u bin key page more hn hwritten γ _ v found hget hfinds
    have hfirst : (key, page) ∈ BinCall.written (layer.asks u bin) := by simp [hwritten]
    obtain ⟨huget, hmissed, f, hf, -⟩ := of_mem_written hfirst
    rw [written_ran huget hmissed, hf] at hwritten
    simp only [written_calls] at hwritten
    obtain rfl := (Prod.mk.inj (List.cons.inj hwritten).1).2
    obtain ⟨hit, hresponse, hreplays⟩ := replays_outgoing hf hn
    rw [visit_of_finds hget hfinds (decode?_item hf u.finished) hresponse, visit_ran huget (Prod.ext hmissed rfl)]
    exact ⟨rfl, hreplays⟩
  · intro β _ sound holds hb bin hs hempty past v hn hserved
    obtain ⟨key, before, u, between, f, hkey, hpast, rfl, hfiled, hresponse⟩ := hit_filed hb hs hempty hserved
    have ⟨hsent, hwritten⟩ := ran_filed hfiled
    obtain ⟨hit, hhit, hreplays⟩ := replays_outgoing (ran_of_filed hfiled).2.2 (hn u (by simp [hpast]))
    obtain rfl := Option.some.inj (hhit.symm.trans hresponse)
    exact ⟨f.key, f.item u.finished, before, u, between, hkey, hpast, hwritten, hsent ▸ hreplays⟩

/-- A page for an hour, with a letter beyond ASCII in one of its fields. -/
def accented : Handled := ⟨hourly.reports, 200, [("x-name", [0xc3, 0xa9])], .ofBytes []⟩

/-- The letter is sent with the page when it is stored, and is missing when the page is served. -/
theorem accent_is_lost :
    let layer := Layer.new "page"
    let v := atRoot accented
    let miss := layer.visit v (Memory.new "page" 8)
    let hit := layer.visit v miss.2
    marks miss.1.response = [(Record.markName, .ofText "MISS")] ∧ hit.1.handled = false ∧
      ("x-name", [0xc3, 0xa9]) ∈ miss.1.response.headers ∧
      ("x-name", [0xc3, 0xa9]) ∉ hit.1.response.headers := by
  intro layer v miss hit
  have hne : Collector.collect accented.reports ≠ .empty :=
    fun he => absurd (congrArg Metadata.maxAge he) (by decide)
  have hkeeps : layer.Keeps v (Collector.collect accented.reports) :=
    ⟨cacheability_of_silent rfl hne, rfl, rfl, nofun, ⟨rfl, by decide, by decide⟩⟩
  obtain ⟨f, hf, habout⟩ := exists_filing? hkeeps
  have hnamed : v.handler.response.headers.Named := by decide
  obtain ⟨response, hresponse, hreplays⟩ := replays_outgoing hf hnamed
  have hkey : f.key = v.address := (key_eq_address_iff hf).mpr (by rw [habout]; rfl)
  have hage : (f.item 0).isExpired 0 = false := isExpired_zero (filing?_storable hf).2 rfl
  have hmiss : miss.1.response = layer.outgoing v := by
    rw [show miss = _ from visit_ran rfl rfl]
  have hhit : hit.1 = ⟨false, [], response⟩ :=
    served_again (Memory.Sound.new "page" 8) rfl hf rfl hkey hresponse rfl rfl hage
  rw [hmiss, hhit]
  refine ⟨hreplays.miss, rfl, ?_, ?_⟩
  · have hsent := (outgoing_alike layer v).headers
    have hfield : ("x-name", [0xc3, 0xa9]) ∈
        v.handler.response.headers.filter fun h => h.1 ∉ layerFields := by decide
    rw [← hsent] at hfield
    exact (List.mem_filter.mp hfield).1
  · intro hfield
    have hkept : ("x-name", [0xc3, 0xa9]) ∈ response.headers.remove Record.markName :=
      List.mem_filter.mpr ⟨hfield, by decide⟩
    rw [hreplays.headers] at hkept
    exact absurd (List.mem_filter.mp hkept).2 (by decide)

end Page
end TaggedCache
