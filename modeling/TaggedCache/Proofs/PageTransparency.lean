import TaggedCache.Proofs.Header
import TaggedCache.Proofs.PageHits
import TaggedCache.Proofs.PageTraffic

/-!
# The page cache is transparent

Whatever a bin answers, a request that is not served from it gets what its handler answers: the same status
and the same body, and the same fields but for those that the layer itself sets. Exactly the answers that may
be kept are marked and written (`visit_is_transparent`).
-/

namespace TaggedCache
namespace Page

/-- The fields that the layer sets. -/
def layerFields : List String :=
  [CacheHeaders.tagsName, CacheHeaders.maxAgeName, CacheHeaders.keysName, Record.markName]

/-- The fields that say whether a response came from the cache. -/
def marks (r : Response) : Headers := r.headers.filter fun h => h.1 = Record.markName

/-- Two responses have the same status, deliver the same, and differ in no field but those that the layer
sets. -/
structure Alike (r s : Response) : Prop where
  status : r.status = s.status
  body : r.body.delivered = s.body.delivered
  headers : (r.headers.filter fun h => h.1 ∉ layerFields) = s.headers.filter fun h => h.1 ∉ layerFields

variable {β : Type} [Storage β] {layer : Layer} {v : Visit} {bin : β} {f : Filing} {m : Metadata}
  {r s : Response}

theorem Alike.trans {t : Response} (h : Alike r s) (h' : Alike s t) : Alike r t :=
  ⟨h.status.trans h'.status, h.body.trans h'.body, h.headers.trans h'.headers⟩

/-! ## What leaves the layer -/

theorem annotated_alike (m : Metadata) (r : Response) : Alike (annotated m r) r := by
  unfold annotated
  split
  · next a _ =>
    have hp : ∀ name ∈ layerFields, (decide (name ∉ layerFields)) = false := by decide
    exact ⟨rfl, rfl, Headers.filter_apply (p := fun name => decide (name ∉ layerFields)) a r.headers
      (hp _ (by decide)) (hp _ (by decide)) (hp _ (by decide))⟩
  · exact ⟨rfl, rfl, rfl⟩

theorem marks_annotated (m : Metadata) (r : Response) : marks (annotated m r) = marks r := by
  unfold annotated
  split
  · next a _ =>
    exact Headers.filter_apply (p := fun name => decide (name = Record.markName)) a r.headers
      (by decide) (by decide) (by decide)
  · rfl

/-- A kept answer is marked, and its body was read as a whole. -/
theorem outgoing_kept (h : layer.filing? v = some f) :
    ∃ bytes, v.handler.response.body.buffer layer.bodyLimit = .complete bytes ∧
      layer.outgoing v = ⟨200, (annotated f.about v.handler.response).headers.insert Record.markName
        (.ofText "MISS"), .ofBytes bytes⟩ := by
  have hstatus := (filing?_some h).2.2.1
  obtain ⟨hm, hk, bytes, hbuffer, -⟩ := filing?_inv h
  have ⟨hs, hb⟩ := annotated_fields f.about v.handler.response
  refine ⟨bytes, hbuffer, ?_⟩
  unfold Layer.outgoing
  simp only [hm, hs, hb, hk, hbuffer]
  rw [hstatus]

/-- An answer that is not kept is passed on, annotated at most. -/
theorem outgoing_passed (h : layer.filing? v = none) :
    Alike (layer.outgoing v) v.handler.response ∧ marks (layer.outgoing v) = marks v.handler.response := by
  unfold Layer.filing? at h
  unfold Layer.outgoing
  cases hm : cacheability v.handler with
  | none => exact ⟨⟨rfl, rfl, rfl⟩, rfl⟩
  | some m =>
    have halike := annotated_alike m v.handler.response
    have hmarks := marks_annotated m v.handler.response
    simp only [hm, Option.bind_eq_bind, Option.bind_some] at h ⊢
    cases hk : layer.storeKey v.address v.request.headers (annotated m v.handler.response).status m with
    | none => exact ⟨halike, hmarks⟩
    | some key =>
      simp only [hk, Option.bind_some] at h
      cases hbuffer : (annotated m v.handler.response).body.buffer layer.bodyLimit with
      | complete bytes =>
        rw [hbuffer] at h
        cases h
      | passthrough body =>
        refine ⟨⟨halike.status, ?_, halike.headers⟩, hmarks⟩
        exact (Body.delivered_of_passthrough hbuffer).trans halike.body

theorem outgoing_alike (layer : Layer) (v : Visit) : Alike (layer.outgoing v) v.handler.response := by
  cases hf : layer.filing? v with
  | none => exact (outgoing_passed hf).1
  | some f =>
    obtain ⟨bytes, hbuffer, hout⟩ := outgoing_kept hf
    have halike := annotated_alike f.about v.handler.response
    rw [hout]
    refine ⟨(filing?_some hf).2.2.1.symm, Body.delivered_of_complete hbuffer, ?_⟩
    refine Eq.trans ?_ halike.headers
    exact Headers.filter_insert (p := fun name => decide (name ∉ layerFields)) _ (by decide)

theorem marks_kept (h : layer.filing? v = some f) :
    marks (layer.outgoing v) = [(Record.markName, .ofText "MISS")] := by
  obtain ⟨bytes, -, hout⟩ := outgoing_kept h
  rw [hout]
  exact Headers.filter_name_insert _ _ _

/-! ## Transparency -/

/-- With every kind of bin, whatever it answers: other requests than `GET` bypass the bin and the layer. A
`GET` is answered with what the bin has for it, and then nothing is written. Otherwise the handler is run once,
and its answer is passed on. It is marked exactly when it may be kept; and only then the page is written once,
and behind it, when it has contexts and the bin took it, their list. -/
theorem visit_is_transparent (layer : Layer) (v : Visit) (bin : β) :
    let found := lookup layer v.now v.address v.request.headers bin
    let served := (layer.visit v bin).1
    let written := BinCall.written (layer.asks v bin)
    layer.visit v (⟨bin, []⟩ : Noted β) = (served, ⟨(layer.visit v bin).2, layer.asks v bin⟩) ∧
    (v.request.method ≠ "GET" →
      layer.visit v bin = (⟨true, v.handler.reports, v.handler.response⟩, bin) ∧ layer.asks v bin = []) ∧
    (v.request.method = "GET" → ∀ response, found.1 = some response →
      served = ⟨false, [], response⟩ ∧ written = []) ∧
    (v.request.method = "GET" → found.1 = none →
      served.handled = true ∧ served.reports = [.nested v.handler.reports false] ∧
      Alike served.response v.handler.response ∧
      ((∀ m, ¬ layer.Keeps v m) → marks served.response = marks v.handler.response ∧ written = []) ∧
      ∀ m, layer.Keeps v m → marks served.response = [(Record.markName, .ofText "MISS")] ∧
        ∃ key page, page.tags = m.tags ∧ page.maxAge = m.maxAge ∧ (key = v.address ↔ m.contexts = []) ∧
          written = (key, page) ::
            if (Storage.set key page found.2).1 = .ok () ∧ m.contexts ≠ [] then
              [(v.address, ⟨(Record.vary m.contexts).encode, m.tags, m.maxAge, v.finished⟩)]
            else []) := by
  intro found served written
  refine ⟨visit_noted layer v ⟨bin, []⟩, ?_, ?_, ?_⟩
  · intro hget
    exact ⟨visit_passed hget, asks_passed hget⟩
  · intro hget response hfound
    refine ⟨?_, written_hit hget hfound⟩
    exact congrArg Prod.fst (visit_hit hget (Prod.ext hfound rfl))
  · intro hget hfound
    have hserved : served = ⟨true, [.nested v.handler.reports false], layer.outgoing v⟩ :=
      congrArg Prod.fst (visit_ran hget (Prod.ext hfound rfl))
    have hwritten : written = _ := written_ran hget hfound
    rw [hserved]
    refine ⟨rfl, rfl, outgoing_alike layer v, ?_, ?_⟩
    · intro hkeeps
      cases hf : layer.filing? v with
      | none =>
        rw [hf] at hwritten
        exact ⟨(outgoing_passed hf).2, hwritten⟩
      | some f => exact absurd (keeps_of_filing? hf) (hkeeps f.about)
    · intro m hkeeps
      obtain ⟨f, hf, rfl⟩ := exists_filing? hkeeps
      rw [hf] at hwritten
      refine ⟨marks_kept hf, f.key, f.item v.finished, rfl, rfl, key_eq_address_iff hf, ?_⟩
      simp only [hwritten, written_calls, ne_eq, key_eq_address_iff hf]
      rfl

/-- The root is asked for. The article is passed on, marked, and written with its tag. -/
theorem visit_is_transparent_root :
    let layer := Layer.new "page"
    let bin := Memory.new "page" 8
    let served := (layer.visit reading bin).1
    let tags : TagSet := .ofList [⟨"article:1", by decide⟩]
    layer.Keeps reading ⟨[], tags, .seconds 3600, true⟩ ∧
      served.handled = true ∧ Alike served.response article.response ∧
      marks served.response = [(Record.markName, .ofText "MISS")] ∧
      (BinCall.written (layer.asks reading bin)).map (fun w => (w.1, w.2.tags)) = [(root, tags)] := by
  intro layer bin served tags
  have hkeeps : layer.Keeps reading ⟨[], tags, .seconds 3600, true⟩ :=
    ⟨cacheability_article, rfl, rfl, nofun, ⟨rfl, by decide, by decide⟩⟩
  obtain ⟨-, -, -, h⟩ := visit_is_transparent layer reading bin
  obtain ⟨hhandled, -, halike, -, hkept⟩ := h rfl rfl
  obtain ⟨hmarks, key, page, htags, -, hkey, hwritten⟩ := hkept _ hkeeps
  refine ⟨hkeeps, hhandled, halike, hmarks, ?_⟩
  rw [hwritten, hkey.mpr rfl, if_neg fun hlist => hlist.2 rfl, List.map_singleton, htags]
  rfl

end Page
end TaggedCache
