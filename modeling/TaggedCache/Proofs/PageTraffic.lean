import TaggedCache.Proofs.Body
import TaggedCache.Proofs.PageIsolation

/-!
# What a visit asks of the bin

A visit is watched by a bin that notes what it is asked. The notes change nothing (`visit_noted`), and they
tell what was written: nothing, or a page that may be kept, and behind a page under the key of a variant the
list of its contexts (`of_mem_written`). Which answers may be kept is said without the page cache (`Layer.Keeps`).
-/

namespace TaggedCache

/-- What a call writes, with its key. -/
def BinCall.write? : BinCall → Option (String × Item)
  | .set key item => some (key, item)
  | _ => none

/-- What some calls write, in order. -/
def BinCall.written (calls : List BinCall) : List (String × Item) := calls.filterMap write?

theorem BinCall.mem_written_iff {calls : List BinCall} {key : String} {item : Item} :
    (key, item) ∈ written calls ↔ .set key item ∈ calls := by
  unfold written
  rw [List.mem_filterMap]
  constructor
  · rintro ⟨c, hc, hw⟩
    cases c with
    | set k i =>
      obtain ⟨rfl, rfl⟩ := Prod.mk.inj (Option.some.inj hw)
      exact hc
    | _ => cases hw
  · intro h
    exact ⟨_, h, rfl⟩

/-- A bin with the calls it was asked for. -/
structure Noted (β : Type) where
  bin : β
  calls : List BinCall

variable {β : Type} [Storage β]

namespace Noted

instance : Storage (Noted β) where
  kind b := Storage.kind b.bin
  get now key b :=
    let (result, bin) := Storage.get now key b.bin
    (result, ⟨bin, b.calls ++ [.get now key]⟩)
  set key item b :=
    let (result, bin) := Storage.set key item b.bin
    (result, ⟨bin, b.calls ++ [.set key item]⟩)
  delete key b :=
    let (result, bin) := Storage.delete key b.bin
    (result, ⟨bin, b.calls ++ [.delete key]⟩)
  applyTags operation tags b :=
    let r := Storage.applyTags operation tags b.bin
    let call := match operation with
      | .invalidate => BinCall.invalidate tags
      | .delete => BinCall.deleteTags tags
    ⟨r.delay, r.outcome, ⟨r.after, b.calls ++ [call]⟩, ⟨r.cut, b.calls ++ [call]⟩⟩

end Noted

namespace Page

variable {layer : Layer} {v : Visit} {bin : β} {f : Filing} {m : Metadata}

/-! ## Notes change nothing -/

theorem read_noted (now : UInt64) (key : String) (b : Noted β) :
    read now key b = ((read now key b.bin).1, ⟨(read now key b.bin).2, b.calls ++ [.get now key]⟩) := by
  have hget : Storage.get now key b =
      ((Storage.get now key b.bin).1, ⟨(Storage.get now key b.bin).2, b.calls ++ [.get now key]⟩) := rfl
  unfold read
  rw [hget]
  rcases Storage.get now key b.bin with ⟨_ | ⟨item | item | _⟩, after⟩ <;> rfl

theorem write_noted (now : UInt64) (key : String) (record : Record) (m : Metadata) (b : Noted β) :
    write now key record m b = ((write now key record m b.bin).1,
      ⟨(write now key record m b.bin).2, b.calls ++ [.set key ⟨record.encode, m.tags, m.maxAge, now⟩]⟩) := by
  generalize hitem : (⟨record.encode, m.tags, m.maxAge, now⟩ : Item) = item
  have hset : Storage.set key item b =
      ((Storage.set key item b.bin).1, ⟨(Storage.set key item b.bin).2, b.calls ++ [.set key item]⟩) := rfl
  unfold write
  rw [hitem, hset]
  rcases Storage.set key item b.bin with ⟨_ | _, after⟩ <;> rfl

/-- What a look-up reads: what lies under the key of the address, and when this is a list of contexts,
what lies under the key of the variant. -/
def Layer.reads (layer : Layer) (now : UInt64) (base : String) (headers : Headers) (bin : β) :
    List BinCall :=
  .get now base :: match (read now base bin).1 with
    | some (.vary contexts) => (layer.variantKey base headers contexts).toList.map (.get now)
    | _ => []

theorem lookup_noted (layer : Layer) (now : UInt64) (base : String) (headers : Headers) (b : Noted β) :
    lookup layer now base headers b = ((lookup layer now base headers b.bin).1,
      ⟨(lookup layer now base headers b.bin).2, b.calls ++ layer.reads now base headers b.bin⟩) := by
  unfold lookup Layer.reads
  rw [read_noted]
  rcases read now base b.bin with ⟨_ | ⟨status, fields, body⟩ | ⟨contexts⟩, after⟩
  · rfl
  · rfl
  · simp only
    cases layer.variantKey base headers contexts with
    | none => rfl
    | some key =>
      simp only [read_noted]
      rcases read now key after with ⟨_ | record, after'⟩ <;> simp

/-- The calls that store a page: the page, and the list of its contexts when the bin took the page and it
lies under the key of a variant. -/
def Filing.calls (f : Filing) (now : UInt64) (base : String) (bin : β) : List BinCall :=
  .set f.key (f.item now) ::
    if (write now f.key f.record f.about bin).1 ∧ f.key ≠ base then [.set base (f.list now)] else []

theorem store_noted (f : Filing) (now : UInt64) (base : String) (b : Noted β) :
    store now base f.key f.about.contexts f.record f.about b =
      ⟨store now base f.key f.about.contexts f.record f.about b.bin, b.calls ++ f.calls now base b.bin⟩ := by
  unfold store Filing.calls
  rw [write_noted]
  rcases write now f.key f.record f.about b.bin with ⟨_ | _, after⟩
  · rfl
  · simp only
    split
    · next hk => simp [hk, Filing.item]
    · next hk =>
      rw [write_noted]
      simp [hk, Filing.item, Filing.list]

/-- What a visit asks of a bin. -/
def Layer.asks (layer : Layer) (v : Visit) (bin : β) : List BinCall :=
  (layer.visit v (⟨bin, []⟩ : Noted β)).2.calls

/-- A bin that takes notes is visited like the bin inside it. -/
theorem visit_noted (layer : Layer) (v : Visit) (b : Noted β) :
    layer.visit v b =
      ((layer.visit v b.bin).1, ⟨(layer.visit v b.bin).2, b.calls ++ layer.asks v b.bin⟩) := by
  unfold Layer.asks
  by_cases hget : v.request.method = "GET"
  · have hl := fun b : Noted β => lookup_noted layer v.now v.address v.request.headers b
    cases h : lookup layer v.now v.address v.request.headers b.bin with
    | mk answer after =>
      have hb := hl b
      have hfresh := hl ⟨b.bin, []⟩
      rw [h] at hb hfresh
      cases answer with
      | some response =>
        rw [visit_hit hget hb, visit_hit hget hfresh, visit_hit hget h]
        rfl
      | none =>
        rw [visit_ran hget hb, visit_ran hget hfresh, visit_ran hget h]
        cases layer.filing? v with
        | none => rfl
        | some f => simp [store_noted]
  · rw [visit_passed hget, visit_passed hget, visit_passed hget, List.append_nil]

theorem asks_passed (h : v.request.method ≠ "GET") : layer.asks v bin = [] := by
  rw [Layer.asks, visit_passed h]

theorem asks_hit {response : Response} {bin' : β} (hget : v.request.method = "GET")
    (hl : lookup layer v.now v.address v.request.headers bin = (some response, bin')) :
    layer.asks v bin = layer.reads v.now v.address v.request.headers bin := by
  have hnoted := lookup_noted layer v.now v.address v.request.headers (⟨bin, []⟩ : Noted β)
  rw [hl] at hnoted
  rw [Layer.asks, visit_hit hget hnoted]
  rfl

theorem asks_ran {bin' : β} (hget : v.request.method = "GET")
    (hl : lookup layer v.now v.address v.request.headers bin = (none, bin')) :
    layer.asks v bin = layer.reads v.now v.address v.request.headers bin ++
      match layer.filing? v with
      | some f => f.calls v.finished v.address bin'
      | none => [] := by
  have hnoted := lookup_noted layer v.now v.address v.request.headers (⟨bin, []⟩ : Noted β)
  rw [hl] at hnoted
  rw [Layer.asks, visit_ran hget hnoted]
  cases layer.filing? v with
  | none => simp
  | some f => simp [store_noted]

/-! ## Which answers may be kept -/

/-- The answer of the handler may be kept: it has this cacheability, which allows it, a status of 200, a
value for each of its contexts, and a body that can be read as a whole. -/
structure Layer.Keeps (layer : Layer) (v : Visit) (m : Metadata) : Prop where
  about : cacheability v.handler = some m
  allowed : m.shouldStore = true
  status : v.handler.response.status = 200
  resolved : ∀ t ∈ m.contexts, (layer.value v.request.headers t).isSome
  complete : v.handler.response.body.Fits layer.bodyLimit

theorem mapM_isSome {α γ : Type} {read : α → Option γ} {xs : List α} :
    (xs.mapM read).isSome ↔ ∀ x ∈ xs, (read x).isSome := by
  induction xs with
  | nil => simp
  | cons x rest ih =>
    rw [List.mapM_cons, List.forall_mem_cons, ← ih]
    cases read x with
    | none => simp
    | some y => cases rest.mapM read <;> simp

theorem variantKey_isSome {base : String} {headers : Headers} {contexts : List String}
    (hne : contexts ≠ []) : (layer.variantKey base headers contexts).isSome ↔
      ∀ t ∈ contexts, (layer.value headers t).isSome := by
  rw [variantKey_eq, Option.isSome_map]
  unfold Layer.contextText Layer.value
  cases layer.resolver with
  | none =>
    obtain ⟨t, ht⟩ := List.exists_mem_of_ne_nil contexts hne
    refine iff_of_false nofun fun h => ?_
    cases h t ht
  | some resolve =>
    have hparts : (contexts.mapM (contextPart (resolve headers))).isSome ↔
        ∀ t ∈ contexts, (resolve headers t).isSome := by
      rw [mapM_isSome]
      simp [contextPart]
    simp only [Option.bind_eq_bind, Option.bind_some, ← hparts]
    cases contexts.mapM (contextPart (resolve headers)) <;> simp

theorem storeKey_isSome {base : String} {headers : Headers} {status : Nat} :
    (layer.storeKey base headers status m).isSome ↔
      status = 200 ∧ m.shouldStore = true ∧ ∀ t ∈ m.contexts, (layer.value headers t).isSome := by
  unfold Layer.storeKey
  split
  · next h => exact iff_of_false nofun fun hok => by simp [hok.1, hok.2.1] at h
  · next h =>
    simp only [not_or, ne_eq, Classical.not_not, Bool.not_eq_true', Bool.not_eq_false] at h
    split
    · next hc => simp [h, hc]
    · next hc => simp [h, variantKey_isSome hc]

/-- A visit of the root, with no fields in the request. -/
def atRoot (h : Handled) : Visit := ⟨0, 0, ⟨"GET", ⟨"/", none⟩, []⟩, h⟩

theorem keeps_of_filing? (h : layer.filing? v = some f) : layer.Keeps v f.about := by
  obtain ⟨hm, hk, bytes, hbuffer, -⟩ := filing?_inv h
  obtain ⟨hstatus, hallowed, hresolved⟩ := storeKey_isSome.mp (Option.isSome_of_eq_some hk)
  exact ⟨hm, hallowed, hstatus, hresolved, (Body.buffer_eq_complete_iff.mp hbuffer).1⟩

theorem exists_filing? (h : layer.Keeps v m) : ∃ f, layer.filing? v = some f ∧ f.about = m := by
  have ⟨hs, hb⟩ := annotated_fields m v.handler.response
  have hkey : (layer.storeKey v.address v.request.headers (annotated m v.handler.response).status m).isSome :=
    storeKey_isSome.mpr ⟨hs.trans h.status, h.allowed, h.resolved⟩
  obtain ⟨key, hk⟩ := Option.isSome_iff_exists.mp hkey
  have hbuffer : (annotated m v.handler.response).body.buffer layer.bodyLimit =
      .complete v.handler.response.body.bytes := by
    rw [hb]
    exact Body.buffer_eq_complete_iff.mpr ⟨h.complete, rfl⟩
  refine ⟨⟨key, m, .ofResponse (annotated m v.handler.response).status
    (annotated m v.handler.response).headers v.handler.response.body.bytes⟩, ?_, rfl⟩
  unfold Layer.filing?
  simp only [h.about, Option.bind_eq_bind, Option.bind_some, hk, hbuffer]

/-- Only a page without contexts lies under the key of its address. -/
theorem key_eq_address_iff (h : layer.filing? v = some f) : f.key = v.address ↔ f.about.contexts = [] := by
  constructor
  · intro hkey
    obtain ⟨-, -, -, -, ⟨hc, -⟩ | hvariant⟩ := filing?_some h
    · exact hc
    · obtain ⟨text, -, he⟩ := variantKey_some hvariant
      have := congrArg (fun s => s.toList.length) (hkey.symm.trans he)
      simp at this
  · intro hc
    obtain ⟨-, hk, -⟩ := filing?_inv h
    unfold Layer.storeKey at hk
    rw [if_pos hc] at hk
    split at hk
    · cases hk
    · exact (Option.some.inj hk).symm

/-! ## What is written -/

theorem written_reads (layer : Layer) (now : UInt64) (base : String) (headers : Headers) (bin : β) :
    BinCall.written (layer.reads now base headers bin) = [] := by
  unfold BinCall.written Layer.reads
  split
  · simp [BinCall.write?]
  · rfl

theorem written_hit {response : Response} (hget : v.request.method = "GET")
    (hl : (lookup layer v.now v.address v.request.headers bin).1 = some response) :
    BinCall.written (layer.asks v bin) = [] := by
  rw [asks_hit hget (Prod.ext hl rfl), written_reads]

theorem written_ran (hget : v.request.method = "GET")
    (hl : (lookup layer v.now v.address v.request.headers bin).1 = none) :
    BinCall.written (layer.asks v bin) =
      match layer.filing? v with
      | some f => BinCall.written (f.calls v.finished v.address
          (lookup layer v.now v.address v.request.headers bin).2)
      | none => [] := by
  rw [asks_ran hget (Prod.ext hl rfl), BinCall.written, List.filterMap_append]
  have hreads := written_reads layer v.now v.address v.request.headers bin
  rw [BinCall.written] at hreads
  rw [hreads, List.nil_append]
  cases layer.filing? v <;> rfl

theorem written_calls (f : Filing) (now : UInt64) (base : String) (bin : β) :
    BinCall.written (f.calls now base bin) = (f.key, f.item now) ::
      if (Storage.set f.key (f.item now) bin).1 = .ok () ∧ f.key ≠ base then [(base, f.list now)] else [] := by
  have hw : (write now f.key f.record f.about bin).1 = true ↔
      (Storage.set f.key (f.item now) bin).1 = .ok () := (write_eq now f.key f.record f.about bin).1
  unfold Filing.calls
  rw [BinCall.written, List.filterMap_cons]
  simp only [BinCall.write?, hw]
  split <;> rfl

/-- What a visit writes belongs to the page that it files. -/
theorem of_mem_written {key : String} {item : Item} (h : (key, item) ∈ BinCall.written (layer.asks v bin)) :
    v.request.method = "GET" ∧ (lookup layer v.now v.address v.request.headers bin).1 = none ∧
      ∃ f, layer.filing? v = some f ∧ ((key = f.key ∧ item = f.item v.finished) ∨
        (key = v.address ∧ key ≠ f.key ∧ item = f.list v.finished)) := by
  by_cases hget : v.request.method = "GET"
  · cases hl : (lookup layer v.now v.address v.request.headers bin).1 with
    | some response =>
      rw [written_hit hget hl] at h
      cases h
    | none =>
      refine ⟨hget, rfl, ?_⟩
      rw [written_ran hget hl] at h
      split at h
      · next f hf =>
        refine ⟨f, hf, ?_⟩
        rw [written_calls] at h
        rcases List.mem_cons.mp h with h | h
        · exact .inl (Prod.mk.inj h)
        · split at h
          · next hok =>
            obtain ⟨rfl, rfl⟩ := Prod.mk.inj (List.mem_singleton.mp h)
            exact .inr ⟨rfl, hok.2.symm, rfl⟩
          · cases h
      · cases h
  · rw [asks_passed hget] at h
    cases h

end Page
end TaggedCache
