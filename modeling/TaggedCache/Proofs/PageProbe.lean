import TaggedCache.Proofs.Page
import TaggedCache.Proofs.PageCacheability

/-!
# Visits with a bare answer

For every cacheability that a handler can report there is one whose answer is always stored and read back:
it is empty and has only the fields that say how it may be cached (`filing?_probe`).
-/

namespace TaggedCache

theorem TagSet.empty_union (s : TagSet) : empty ∪ s = s := by
  show union empty s = s
  cases s
  simp [union, empty, mergeLists]

theorem Collector.collect_record (m : Metadata) : collect [.record m] = Metadata.empty.addPart m := rfl

namespace Page

/-- The fields that say how an answer may be cached. -/
def cacheFields : List String := [CacheHeaders.tagsName, CacheHeaders.maxAgeName, CacheHeaders.keysName]

/-- The handler with an empty answer of status 200, and only the fields that say how it may be cached. -/
def bare (a : Handled) : Handled :=
  ⟨a.reports, 200, a.response.headers.filter fun h => h.1 ∈ cacheFields, .ofBytes []⟩

theorem get?_filter {hs : Headers} {name : String} (h : name ∈ cacheFields) :
    Headers.get? (hs.filter fun h => h.1 ∈ cacheFields) name = hs.get? name := by
  unfold Headers.get?
  rw [List.find?_filter]
  congr 2
  funext e
  by_cases he : e.1 = name
  · simp [he, h]
  · simp [he]

theorem cacheability_bare (a : Handled) : cacheability (bare a) = cacheability a := by
  have hread : CacheHeaders.read (bare a).response.headers = CacheHeaders.read a.response.headers := by
    unfold CacheHeaders.read bare
    rw [get?_filter (by decide), get?_filter (by decide), get?_filter (by decide)]
  unfold cacheability
  rw [hread]
  rfl

theorem named_bare (a : Handled) : (bare a).response.headers.Named := by
  have hname : ∀ name ∈ cacheFields, Headers.name? name = some name := by decide
  intro e he
  exact hname e.1 (of_decide_eq_true (List.mem_filter.mp he).2)

/-- A visit of the root, at the beginning of time. -/
def probe (headers : Headers) (a : Handled) : Visit := ⟨0, 0, ⟨"GET", ⟨"/", none⟩, headers⟩, bare a⟩

/-- The key of the root. -/
def root : String := baseKey ⟨"/", none⟩

theorem plain_root : Plain ⟨"/", none⟩ := ⟨⟨by decide, by decide⟩, nofun⟩

variable {layer : Layer} {a : Handled} {m : Metadata} {h : Headers} {key : String}

theorem filing?_probe (hc : cacheability a = some m) (hkey : layer.storeKey root h 200 m = some key) :
    ∃ f response, layer.filing? (probe h a) = some f ∧ f.key = key ∧ f.about = m ∧
      f.record.response? = some response := by
  have hstatus : (annotated m (bare a).response).status = 200 := (annotated_fields m _).1
  have hbody : (annotated m (bare a).response).body = .ofBytes [] := (annotated_fields m _).2
  have hbuffer : (Body.ofBytes []).buffer layer.bodyLimit = .complete [] := rfl
  obtain ⟨fields, hfields⟩ : ∃ fields, Record.storedHeaders?
      ((annotated m (bare a).response).headers.filterMap fun e =>
        (Headers.text? e.2).map fun text => (e.1, text)) = some fields :=
    ⟨_, Record.storedHeaders?_ofResponse (named_annotated (named_bare a) m)⟩
  refine ⟨⟨key, m, .ofResponse 200 (annotated m (bare a).response).headers []⟩,
    ⟨200, fields.insert Record.markName (.ofText "HIT"), .ofBytes []⟩, ?_, rfl, rfl, ?_⟩
  · refine Option.bind_eq_some_iff.mpr ⟨m, (cacheability_bare a).trans hc, ?_⟩
    refine Option.bind_eq_some_iff.mpr ⟨key, ?_, ?_⟩
    · show layer.storeKey root h (annotated m (bare a).response).status m = _
      rw [hstatus, hkey]
    · have hcomplete : (annotated m (probe h a).handler.response).body.buffer layer.bodyLimit =
          .complete [] := by
        show (annotated m (bare a).response).body.buffer layer.bodyLimit = _
        rw [hbody, hbuffer]
      rw [hcomplete]
      show some (Filing.mk _ _ (.ofResponse (annotated m (bare a).response).status _ _)) = _
      rw [hstatus]
      rfl
  · simp only [Record.ofResponse, Record.response?, String.toList_ofList, Base64.decode?_encode,
      Option.bind_eq_bind, Option.bind_some, hfields]
    rfl

theorem cacheability_reports {steps : List Collector.Step} {m : Metadata}
    (hc : Collector.collect steps = m) (hm : m ≠ .empty) : cacheability ⟨steps, .empty⟩ = some m := by
  rw [← hc] at hm ⊢
  exact cacheability_of_silent rfl hm

theorem isExpired_zero {i : Item} (hz : i.maxAge ≠ .zero) (hc : i.created = 0) :
    i.isExpired 0 = false := by
  unfold Item.isExpired Item.expiresAt
  rw [hc]
  cases hm : i.maxAge with
  | permanent => rfl
  | seconds n =>
    have hn : n.toNat ≠ 0 := by
      intro h
      exact hz (by rw [hm, UInt32.toNat_inj.mp (h.trans UInt32.toNat_zero.symm), MaxAge.zero])
    have hsum : Item.addClamped 0 n.toUInt64 = n.toUInt64 := by
      have hlt : (0 : UInt64).toNat + n.toUInt64.toNat < UInt64.size := by
        have := n.toUInt64.toNat_lt
        simpa using this
      rw [Item.addClamped, if_pos hlt, UInt64.zero_add]
    show decide (Item.addClamped 0 n.toUInt64 ≤ 0) = false
    rw [hsum, decide_eq_false_iff_not, UInt64.le_iff_toNat_le, UInt32.toNat_toUInt64, UInt64.toNat_zero]
    omega

end Page
end TaggedCache
