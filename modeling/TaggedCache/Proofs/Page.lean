import TaggedCache.Page.Layer
import TaggedCache.Proofs.Json
import TaggedCache.Proofs.Storage

/-!
# What a visit does to the bin of pages

A visit is a request that went through the page cache from its arrival to its answer. What the bin holds
afterwards was there before, or was filed by the visit (`holds_after`). Two visits file under the same key
only when they ask for the same address and their contexts have the same text (`filed_keys`).
-/

namespace TaggedCache
namespace Page

/-! ## Stored records read back -/

namespace Record

/-- The status of a page is one that reads back. -/
def Storable : Record → Prop
  | .page status _ _ => status < UInt16.size
  | .vary _ => True

theorem fits {r : Record} (h : r.Storable) : Json.Fits Json.depthLimit r.toJson := by
  show Json.Fits (126 + 1) r.toJson
  cases r with
  | page status headers body =>
    have hstatus : status < UInt16.size := h
    have hheaders : Json.Fits 126 (.array (headers.map fun h => Json.texts [h.1, h.2])) := by
      refine .array fun v hv => ?_
      obtain ⟨p, -, rfl⟩ := List.mem_map.mp hv
      exact .texts [p.1, p.2]
    refine .object fun m hm => ?_
    simp only [List.mem_cons, List.not_mem_nil, or_false] at hm
    rcases hm with rfl | rfl | rfl | rfl
    · exact .text _
    · have hsize : UInt16.size = 65536 := rfl
      exact .int ⟨by omega, by omega⟩
    · exact hheaders
    · exact .text _
  | vary contexts =>
    refine .object fun m hm => ?_
    simp only [List.mem_cons, List.not_mem_nil, or_false] at hm
    rcases hm with rfl | rfl
    · exact .text _
    · exact .texts contexts

theorem texts?_texts (xs : List String) : texts? (Json.texts xs) = some xs := by
  simp only [texts?, Json.texts]
  induction xs with
  | nil => rfl
  | cons s rest ih => simp [ih]

theorem headers?_pairs (hs : List (String × String)) :
    headers? (.array (hs.map fun h => Json.texts [h.1, h.2])) = some hs := by
  simp only [headers?]
  induction hs with
  | nil => rfl
  | cons h rest ih =>
    rw [List.map_cons, List.mapM_cons, ih]
    rfl

theorem ofJson?_toJson {r : Record} (h : r.Storable) : ofJson? r.toJson = some r := by
  cases r with
  | page status headers body =>
    have hstatus : status? (.nat status) = some status := by
      simp [status?, Json.nat, Json.int, show status < UInt16.size from h]
    simp [toJson, ofJson?, single?, text?, fieldNames, ofFields?, headers?_pairs, hstatus]
  | vary contexts => simp [toJson, ofJson?, single?, text?, fieldNames, ofFields?, texts?_texts]

theorem decode?_encode {r : Record} (h : r.Storable) : decode? r.encode = some r := by
  rw [decode?, encode, Json.readBytes?_bytes (fits h), Option.bind_some, ofJson?_toJson h]

theorem response?_ofResponse {status : Nat} {headers : Headers} {body : Bytes} {r : Response}
    (h : (ofResponse status headers body).response? = some r) :
    r.status = status ∧ r.body = .ofBytes body := by
  simp only [ofResponse, response?, String.toList_ofList, Base64.decode?_encode, Option.bind_eq_bind,
    Option.bind_some] at h
  obtain ⟨fields, -, hr⟩ := Option.bind_eq_some_iff.mp h
  split at hr
  · obtain rfl := Option.some.inj hr
    exact ⟨rfl, rfl⟩
  · cases hr

end Record

/-! ## Keys -/

/-- A target as it comes from an address: the fragment is gone, and the query is cut off the path. -/
structure Plain (t : Target) : Prop where
  path : '#' ∉ t.path.toList ∧ '?' ∉ t.path.toList
  query : ∀ q, t.query = some q → '#' ∉ q.toList

/-- Two texts are cut alike at the first place where a character stands. -/
theorem append_cons_inj {c : Char} {front front' back back' : List Char} (h : c ∉ front)
    (h' : c ∉ front') (he : front ++ c :: back = front' ++ c :: back') :
    front = front' ∧ back = back' := by
  induction front generalizing front' with
  | nil =>
    cases front' with
    | nil => exact ⟨rfl, (List.cons.inj he).2⟩
    | cons d front' => exact absurd (List.cons.inj he).1 (List.ne_of_not_mem_cons h')
  | cons d front ih =>
    cases front' with
    | nil => exact absurd (List.cons.inj he).1.symm (List.ne_of_not_mem_cons h)
    | cons d' front' =>
      obtain ⟨rfl, hrest⟩ := List.cons.inj he
      have ⟨hf, hb⟩ := ih (List.not_mem_of_not_mem_cons h) (List.not_mem_of_not_mem_cons h') hrest
      exact ⟨congrArg _ hf, hb⟩

theorem hash_append_inj {a b c d : String} (ha : '#' ∉ a.toList) (hb : '#' ∉ b.toList)
    (h : a ++ "#" ++ c = b ++ "#" ++ d) : a = b ∧ c = d := by
  have hl := congrArg String.toList h
  simp only [String.toList_append, List.append_assoc] at hl
  have ⟨hf, hr⟩ := append_cons_inj ha hb hl
  exact ⟨String.toList_inj.mp hf, String.toList_inj.mp hr⟩

variable {t u : Target}

theorem hash_not_mem_baseKey (h : Plain t) : '#' ∉ (baseKey t).toList := by
  unfold baseKey
  split
  · next q hq => simp [h.path.1, h.query q hq]
  · simp [h.path.1]

theorem baseKey_injective (ht : Plain t) (hu : Plain u) (h : baseKey t = baseKey u) : t = u := by
  obtain ⟨path, query⟩ := t
  obtain ⟨path', query'⟩ := u
  have hl := congrArg String.toList h
  cases query with
  | none =>
    cases query' with
    | none =>
      simp only [baseKey, String.toList_append, List.append_cancel_left_eq, String.toList_inj] at hl
      rw [hl]
    | some q =>
      simp only [baseKey, String.toList_append, List.append_assoc, List.append_cancel_left_eq] at hl
      exact absurd (by simp [hl]) ht.path.2
  | some q =>
    cases query' with
    | none =>
      simp only [baseKey, String.toList_append, List.append_assoc, List.append_cancel_left_eq] at hl
      exact absurd (by simp [← hl]) hu.path.2
    | some q' =>
      simp only [baseKey, String.toList_append, List.append_assoc, List.append_cancel_left_eq] at hl
      have ⟨hp, hq⟩ := append_cons_inj ht.path.2 hu.path.2 hl
      obtain rfl : path = path' := String.toList_inj.mp hp
      obtain rfl : q = q' := String.toList_inj.mp hq
      rfl

/-- A context with its value. -/
def contextPart (resolve : String → Option String) (token : String) : Option String :=
  (resolve token).map fun value => "[" ++ token ++ "]=" ++ value

/-- The contexts with their values, as they stand in the key of a variant. -/
def Layer.contextText (layer : Layer) (headers : Headers) (contexts : List String) : Option String := do
  let resolve ← layer.resolver
  let parts ← contexts.mapM (contextPart (resolve headers))
  some (Text.join ":" parts)

theorem renderParts (resolve : String → Option String) (contexts : List String) :
    ((contexts.map KeyPart.context).mapM (Metadata.renderPart resolve)).toOption =
      contexts.mapM (contextPart resolve) := by
  induction contexts with
  | nil => rfl
  | cons t rest ih =>
    rw [List.map_cons, List.mapM_cons, List.mapM_cons, ← ih, contextPart, Metadata.renderPart]
    cases resolve t with
    | none => rfl
    | some value => cases (rest.map KeyPart.context).mapM (Metadata.renderPart resolve) <;> rfl

theorem variantKey_eq (layer : Layer) (base : String) (headers : Headers) (contexts : List String) :
    layer.variantKey base headers contexts =
      (layer.contextText headers contexts).map fun text => base ++ "#" ++ text := by
  unfold Layer.variantKey Layer.contextText
  cases layer.resolver with
  | none => rfl
  | some resolve =>
    simp only [Option.bind_eq_bind, Option.bind_some, Metadata.storageKey, ← renderParts]
    cases (contexts.map KeyPart.context).mapM (Metadata.renderPart (resolve headers)) <;> rfl

/-! ## Reading -/

variable {β : Type} [Storage β] {sound : β → Prop} {holds : β → String → Item → Prop} {bin : β}
  {now : UInt64} {key k base : String} {i : Item} {m : Metadata} {record : Record} {layer : Layer}
  {headers : Headers}

theorem read_snd {r : Option Record} {bin' : β} (h : read now key bin = (r, bin')) :
    bin' = (Storage.get now key bin).2 := by
  unfold read at h
  split at h
  · next hg =>
    rw [hg]
    exact (congrArg Prod.snd h).symm
  · next hg =>
    rw [hg]
    exact (congrArg Prod.snd h).symm

theorem read_of_fresh {item : Item} {rest : β}
    (hg : Storage.get now key bin = (.ok (.fresh item), rest)) :
    read now key bin = (Record.decode? item.data, rest) := by
  unfold read
  rw [hg]

theorem read_some (hb : Holding sound holds) {bin' : β} (h : read now key bin = (some record, bin')) :
    ∃ item, holds bin key item ∧ item.isExpired now = false ∧ Record.decode? item.data = some record := by
  unfold read at h
  split at h
  · next item _ hg =>
    have ⟨hi, hx⟩ := hb.of_fresh (congrArg Prod.fst hg)
    exact ⟨item, hi, hx, congrArg Prod.fst h⟩
  · cases h

theorem holds_read (hb : Holding sound holds) {r : Option Record} {bin' : β}
    (hr : read now key bin = (r, bin')) (h : holds bin' k i) : holds bin k i :=
  hb.of_get (read_snd hr ▸ h)

theorem holds_lookup (hb : Holding sound holds) {answer : Option Response} {bin' : β}
    (hl : lookup layer now base headers bin = (answer, bin')) (h : holds bin' k i) : holds bin k i := by
  obtain rfl : (lookup layer now base headers bin).2 = bin' := congrArg Prod.snd hl
  unfold lookup at h
  split at h
  · next hr => exact holds_read hb hr h
  · next hr =>
    split at h
    · exact holds_read hb hr h
    · split at h
      · next hr' => exact holds_read hb hr (holds_read hb hr' h)
      · next hr' => exact holds_read hb hr (holds_read hb hr' h)
  · next hr => exact holds_read hb hr h

theorem sound_read (hb : Holding sound holds) {r : Option Record} {bin' : β}
    (hr : read now key bin = (r, bin')) (h : sound bin) : sound bin' := by
  rw [read_snd hr]
  exact hb.sound_get h

theorem sound_lookup (hb : Holding sound holds) {answer : Option Response} {bin' : β}
    (hl : lookup layer now base headers bin = (answer, bin')) (h : sound bin) : sound bin' := by
  obtain rfl : (lookup layer now base headers bin).2 = bin' := congrArg Prod.snd hl
  unfold lookup
  split
  · next hr => exact sound_read hb hr h
  · next hr =>
    split
    · exact sound_read hb hr h
    · split
      · next hr' => exact sound_read hb hr' (sound_read hb hr h)
      · next hr' => exact sound_read hb hr' (sound_read hb hr h)
  · next hr => exact sound_read hb hr h

/-- The key under which an answer from the bin lies. -/
def Layer.servedKey? (layer : Layer) (now : UInt64) (base : String) (headers : Headers) (bin : β) :
    Option String :=
  match (read now base bin).1 with
  | some (.vary contexts) => layer.variantKey base headers contexts
  | _ => some base

/-- An answer from the bin was held, under the key of the address or under that of a variant whose
contexts were held there. -/
theorem lookup_some (hb : Holding sound holds) {response : Response}
    (h : (lookup layer now base headers bin).1 = some response) :
    ∃ key item record, layer.servedKey? now base headers bin = some key ∧ holds bin key item ∧
      item.isExpired now = false ∧ Record.decode? item.data = some record ∧
      record.response? = some response ∧
      (key = base ∨ ∃ vary contexts, holds bin base vary ∧
        Record.decode? vary.data = some (.vary contexts) ∧
        layer.variantKey base headers contexts = some key) := by
  unfold Layer.servedKey?
  unfold lookup at h
  split at h
  · cases h
  · next contexts bin' hr =>
    obtain ⟨vary, hv, -, hd⟩ := read_some hb hr
    rw [hr]
    split at h
    · cases h
    · next key hk =>
      split at h
      · cases h
      · next record bin'' hr' =>
        obtain ⟨item, hi, hx, hd'⟩ := read_some hb hr'
        exact ⟨key, item, record, hk, holds_read hb hr hi, hx, hd', h, .inr ⟨vary, contexts, hv, hd, hk⟩⟩
  · next record bin' hne hr =>
    obtain ⟨item, hi, hx, hd⟩ := read_some hb hr
    rw [hr]
    refine ⟨base, item, record, ?_, hi, hx, hd, h, .inl rfl⟩
    cases record with
    | page status headers body => rfl
    | vary contexts => cases h

/-! ## Visits -/

/-- A request with the times at which it comes and is answered, and what its handler would do. -/
structure Visit where
  now : UInt64
  finished : UInt64
  request : Request
  handler : Handled

/-- What becomes of a visit, and the bin after it. -/
def Layer.visit (layer : Layer) (v : Visit) (bin : β) : Served × β :=
  layer.serve v.now v.finished v.request v.handler bin

def Visit.address (v : Visit) : String := baseKey v.request.target

/-- A page to be stored, with its key and its cacheability. -/
structure Filing where
  key : String
  about : Metadata
  record : Record

/-- The item of a page. -/
def Filing.item (f : Filing) (now : UInt64) : Item :=
  ⟨f.record.encode, f.about.tags, f.about.maxAge, now⟩

/-- The item that lists the contexts of a page. -/
def Filing.list (f : Filing) (now : UInt64) : Item :=
  ⟨(Record.vary f.about.contexts).encode, f.about.tags, f.about.maxAge, now⟩

/-- The page that the answer of the handler makes, if it may be stored. -/
def Layer.filing? (layer : Layer) (v : Visit) : Option Filing := do
  let m ← cacheability v.handler
  let r := annotated m v.handler.response
  let key ← layer.storeKey v.address v.request.headers r.status m
  match r.body.buffer layer.bodyLimit with
  | .complete bytes => some ⟨key, m, .ofResponse r.status r.headers bytes⟩
  | .passthrough _ => none

/-- The page that a visit leaves in the bin: its handler ran, and the bin took the page. -/
def Layer.filed? (layer : Layer) (v : Visit) (bin : β) : Option Filing :=
  if v.request.method ≠ "GET" then none
  else
    match lookup layer v.now v.address v.request.headers bin with
    | (some _, _) => none
    | (none, bin) => (layer.filing? v).filter fun f => (write v.finished f.key f.record f.about bin).1

variable {v : Visit}

theorem visit_passed (h : v.request.method ≠ "GET") :
    layer.visit v bin = (⟨true, v.handler.reports, v.handler.response⟩, bin) := by
  unfold Layer.visit Layer.serve
  rw [if_pos h]

theorem visit_other (h : v.request.method ≠ "GET") :
    (layer.visit v bin).1.handled = true ∧ (layer.visit v bin).2 = bin := by
  rw [visit_passed h]
  exact ⟨rfl, rfl⟩

theorem visit_hit {response : Response} {bin' : β} (hget : v.request.method = "GET")
    (hl : lookup layer v.now v.address v.request.headers bin = (some response, bin')) :
    layer.visit v bin = (⟨false, [], response⟩, bin') := by
  unfold Layer.visit Layer.serve
  rw [if_neg (not_not_intro hget)]
  simp only
  erw [hl]

/-- The bin has some data for a request: under the key of its address, or under that of the variant whose
contexts are listed there. -/
inductive Layer.Finds (layer : Layer) (v : Visit) (bin : β) (data : Bytes) : Prop where
  | address (item : Item) (rest : β) (found : Storage.get v.now v.address bin = (.ok (.fresh item), rest))
      (hdata : item.data = data)
  | variant (list item : Item) (contexts : List String) (key : String) (rest rest' : β)
      (listed : Storage.get v.now v.address bin = (.ok (.fresh list), rest))
      (hcontexts : Record.decode? list.data = some (.vary contexts))
      (hkey : layer.variantKey v.address v.request.headers contexts = some key)
      (found : Storage.get v.now key rest = (.ok (.fresh item), rest')) (hdata : item.data = data)

/-- A visit that finds the data of a page is answered with it. -/
theorem visit_of_finds {data : Bytes} {response : Response} (hget : v.request.method = "GET")
    (hfinds : layer.Finds v bin data) (hd : Record.decode? data = some record)
    (hresponse : record.response? = some response) : (layer.visit v bin).1 = ⟨false, [], response⟩ := by
  suffices hl : ∃ rest, lookup layer v.now v.address v.request.headers bin = (some response, rest) by
    obtain ⟨rest, hl⟩ := hl
    rw [visit_hit hget hl]
  cases hfinds with
  | address item rest found hdata =>
    refine ⟨rest, ?_⟩
    unfold lookup
    rw [read_of_fresh found, hdata, hd]
    cases record with
    | page status headers body => simp only [hresponse]
    | vary contexts => cases hresponse
  | variant list item contexts key rest rest' listed hcontexts hkey found hdata =>
    refine ⟨rest', ?_⟩
    unfold lookup
    rw [read_of_fresh listed, hcontexts]
    simp only [hkey]
    rw [read_of_fresh found, hdata, hd]
    simp only [hresponse]

/-- What the answer of the handler is on its way out. No bin has a part in it. -/
def Layer.outgoing (layer : Layer) (v : Visit) : Response :=
  match cacheability v.handler with
  | none => v.handler.response
  | some m =>
    let r := annotated m v.handler.response
    match layer.storeKey v.address v.request.headers r.status m, r.body.buffer layer.bodyLimit with
    | none, _ => r
    | some _, .passthrough body => { r with body }
    | some _, .complete bytes =>
      ⟨r.status, r.headers.insert Record.markName (.ofText "MISS"), .ofBytes bytes⟩

/-- A visit that is not answered from the bin. -/
theorem visit_ran {bin' : β} (hget : v.request.method = "GET")
    (hl : lookup layer v.now v.address v.request.headers bin = (none, bin')) :
    layer.visit v bin = (⟨true, [.nested v.handler.reports false], layer.outgoing v⟩,
      match layer.filing? v with
      | some f => store v.finished v.address f.key f.about.contexts f.record f.about bin'
      | none => bin') := by
  have hl' : lookup layer v.now (baseKey v.request.target) v.request.headers bin = (none, bin') := hl
  unfold Layer.visit Layer.serve
  rw [if_neg (not_not_intro hget)]
  simp only
  rw [hl']
  unfold Layer.filing? Layer.outgoing
  cases cacheability v.handler with
  | none => rfl
  | some m =>
    simp only [Layer.keep, Visit.address, Option.bind_eq_bind, Option.bind_some]
    cases layer.storeKey (baseKey v.request.target) v.request.headers
        (annotated m v.handler.response).status m with
    | none => rfl
    | some key =>
      simp only [Option.bind_some]
      cases (annotated m v.handler.response).body.buffer layer.bodyLimit with
      | complete bytes => rfl
      | passthrough body => rfl

theorem visit_missed {bin' : β} (hget : v.request.method = "GET")
    (hl : lookup layer v.now v.address v.request.headers bin = (none, bin')) :
    (layer.visit v bin).1.handled = true ∧ (layer.visit v bin).2 =
      match layer.filing? v with
      | some f => store v.finished v.address f.key f.about.contexts f.record f.about bin'
      | none => bin' := by
  rw [visit_ran hget hl]
  exact ⟨rfl, rfl⟩

/-- Only a `GET` is answered from the bin, and then with what was found there. -/
theorem of_not_handled (h : (layer.visit v bin).1.handled = false) :
    v.request.method = "GET" ∧
      (lookup layer v.now v.address v.request.headers bin).1 = some (layer.visit v bin).1.response := by
  by_cases hget : v.request.method = "GET"
  · refine ⟨hget, ?_⟩
    cases hl : lookup layer v.now v.address v.request.headers bin with
    | mk answer bin' =>
      cases answer with
      | some response => rw [visit_hit hget hl]
      | none =>
        rw [(visit_missed hget hl).1] at h
        cases h
  · rw [(visit_other hget).1] at h
    cases h

/-- A visit that files a page is a `GET` whose handler ran. -/
theorem ran_of_filed {f : Filing} (h : layer.filed? v bin = some f) :
    v.request.method = "GET" ∧ (layer.visit v bin).1.handled = true ∧ layer.filing? v = some f := by
  unfold Layer.filed? at h
  split at h
  · cases h
  · next hget =>
    replace hget := Classical.not_not.mp hget
    split at h
    · cases h
    · next hl => exact ⟨hget, (visit_missed hget hl).1, (Option.filter_eq_some_iff.mp h).1⟩

theorem annotated_fields (m : Metadata) (r : Response) :
    (annotated m r).status = r.status ∧ (annotated m r).body = r.body := by
  unfold annotated
  split
  · exact ⟨rfl, rfl⟩
  · exact ⟨rfl, rfl⟩

/-- What a page that may be stored is made from. -/
theorem filing?_inv {f : Filing} (h : layer.filing? v = some f) :
    cacheability v.handler = some f.about ∧
      layer.storeKey v.address v.request.headers v.handler.response.status f.about = some f.key ∧
      ∃ bytes, v.handler.response.body.buffer layer.bodyLimit = .complete bytes ∧ f.record =
        .ofResponse v.handler.response.status (annotated f.about v.handler.response).headers bytes := by
  obtain ⟨m, hm, h⟩ := Option.bind_eq_some_iff.mp h
  obtain ⟨key, hk, h⟩ := Option.bind_eq_some_iff.mp h
  have ⟨hs, hb⟩ := annotated_fields m v.handler.response
  rw [hb] at h
  rw [hs] at h hk
  split at h
  · next bytes hbuffer =>
    obtain rfl := Option.some.inj h
    exact ⟨hm, hk, bytes, hbuffer, rfl⟩
  · cases h

/-- What is stored comes from a complete answer of status 200 that may be stored; its key is that of the
address or, when there are contexts, that of a variant. -/
theorem filing?_some {f : Filing} (h : layer.filing? v = some f) :
    cacheability v.handler = some f.about ∧ f.about.shouldStore = true ∧ v.handler.response.status = 200 ∧
      (∃ bytes, v.handler.response.body.buffer layer.bodyLimit = .complete bytes ∧
        f.record = .ofResponse 200 (annotated f.about v.handler.response).headers bytes) ∧
      ((f.about.contexts = [] ∧ f.key = v.address) ∨
        layer.variantKey v.address v.request.headers f.about.contexts = some f.key) := by
  obtain ⟨hm, hk, bytes, hbuffer, hrecord⟩ := filing?_inv h
  unfold Layer.storeKey at hk
  split at hk
  · cases hk
  · next hok =>
    simp only [not_or, ne_eq, Classical.not_not, Bool.not_eq_true', Bool.not_eq_false] at hok
    rw [hok.1] at hrecord
    refine ⟨hm, hok.2, hok.1, ⟨bytes, hbuffer, hrecord⟩, ?_⟩
    split at hk
    · next hc => exact .inl ⟨hc, (Option.some.inj hk).symm⟩
    · exact .inr hk

theorem filing?_storable {f : Filing} (h : layer.filing? v = some f) :
    f.record.Storable ∧ f.about.maxAge ≠ .zero := by
  obtain ⟨-, hs, -, ⟨bytes, -, hr⟩, -⟩ := filing?_some h
  rw [hr]
  refine ⟨show 200 < UInt16.size by decide, ?_⟩
  simpa [Metadata.shouldStore, MaxAge.isZero] using (Bool.and_eq_true_iff.mp hs).2

theorem decode?_item {f : Filing} (hf : layer.filing? v = some f) (now : UInt64) :
    Record.decode? (f.item now).data = some f.record :=
  Record.decode?_encode (filing?_storable hf).1

theorem decode?_list (f : Filing) (now : UInt64) :
    Record.decode? (f.list now).data = some (.vary f.about.contexts) := Record.decode?_encode trivial

theorem record_ne_vary {f : Filing} (hf : layer.filing? v = some f) (contexts : List String) :
    f.record ≠ .vary contexts := by
  obtain ⟨-, -, -, ⟨bytes, -, hr⟩, -⟩ := filing?_some hf
  rw [hr]
  nofun

theorem write_eq (now : UInt64) (key : String) (record : Record) (m : Metadata) (bin : β) :
    ((write now key record m bin).1 = true ↔
        (Storage.set key ⟨record.encode, m.tags, m.maxAge, now⟩ bin).1 = .ok ()) ∧
      (write now key record m bin).2 = (Storage.set key ⟨record.encode, m.tags, m.maxAge, now⟩ bin).2 := by
  unfold write
  split
  · next hs => simp [hs]
  · next hs => simp [hs]

theorem sound_write (hb : Holding sound holds) (hs : sound bin) (now : UInt64) (key : String)
    (record : Record) (m : Metadata) : sound (write now key record m bin).2 := by
  rw [(write_eq now key record m bin).2]
  exact hb.sound_set hs

theorem holds_store {f : Filing} (hb : Holding sound holds) (hs : sound bin) (hz : f.about.maxAge ≠ .zero)
    (h : holds (store now base f.key f.about.contexts f.record f.about bin) k i) :
    ((write now f.key f.record f.about bin).1 = true ∧
        ((k = f.key ∧ i = f.item now) ∨ (k = base ∧ i = f.list now))) ∨
      (holds bin k i ∧ ((write now f.key f.record f.about bin).1 = true → k ≠ f.key)) := by
  have ⟨hok, hset⟩ := write_eq now f.key f.record f.about bin
  -- What is held behind the page, before the list of its contexts is written.
  have hpage : holds (write now f.key f.record f.about bin).2 k i →
      ((write now f.key f.record f.about bin).1 = true ∧ k = f.key ∧ i = f.item now) ∨
        (holds bin k i ∧ ((write now f.key f.record f.about bin).1 = true → k ≠ f.key)) := by
    intro hh
    rw [hset] at hh
    rw [hok]
    exact hb.of_set hs hz hh
  unfold store at h
  split at h
  · next bin' hw =>
    rw [hw] at hpage ⊢
    split at h
    · rcases hpage h with ⟨-, hk, hi⟩ | hold
      · exact .inl ⟨rfl, .inl ⟨hk, hi⟩⟩
      · exact .inr hold
    · rw [(write_eq now base _ _ _).2] at h
      have hs' : sound bin' := by
        have := sound_write hb hs now f.key f.record f.about
        rwa [hw] at this
      rcases hb.of_set hs' hz h with ⟨-, hk, hi⟩ | ⟨h, -⟩
      · exact .inl ⟨rfl, .inr ⟨hk, hi⟩⟩
      · rcases hpage h with ⟨-, hk, hi⟩ | hold
        · exact .inl ⟨rfl, .inl ⟨hk, hi⟩⟩
        · exact .inr hold
  · next bin' hw =>
    rw [hw] at hpage ⊢
    rcases hpage h with ⟨hf, -⟩ | hold
    · cases hf
    · exact .inr hold

theorem sound_store {f : Filing} (hb : Holding sound holds) (hs : sound bin) :
    sound (store now base f.key f.about.contexts f.record f.about bin) := by
  have hpage := sound_write hb hs now f.key f.record f.about
  unfold store
  split
  · next hw =>
    rw [hw] at hpage
    split
    · exact hpage
    · exact sound_write hb hpage now base _ f.about
  · next hw =>
    rw [hw] at hpage
    exact hpage

theorem sound_visit (hb : Holding sound holds) (hs : sound bin) : sound (layer.visit v bin).2 := by
  by_cases hget : v.request.method = "GET"
  · cases hl : lookup layer v.now v.address v.request.headers bin with
    | mk answer bin' =>
      have hlookup := sound_lookup hb hl hs
      cases answer with
      | some response =>
        rw [visit_hit hget hl]
        exact hlookup
      | none =>
        rw [(visit_missed hget hl).2]
        cases layer.filing? v with
        | none => exact hlookup
        | some f => exact sound_store hb hlookup
  · rw [(visit_other hget).2]
    exact hs

/-- What is held after a visit was filed by it, or was held before under another key than the page that
it filed. -/
theorem holds_visit (hb : Holding sound holds) (hs : sound bin) (h : holds (layer.visit v bin).2 k i) :
    (∃ f, layer.filed? v bin = some f ∧
        ((k = f.key ∧ i = f.item v.finished) ∨ (k = v.address ∧ i = f.list v.finished))) ∨
      (holds bin k i ∧ ∀ f, layer.filed? v bin = some f → k ≠ f.key) := by
  by_cases hget : v.request.method = "GET"
  · unfold Layer.filed?
    rw [if_neg (not_not_intro hget)]
    cases hl : lookup layer v.now v.address v.request.headers bin with
    | mk answer bin' =>
      have hold : holds bin' k i → holds bin k i := fun hi => holds_lookup hb hl hi
      cases answer with
      | some response =>
        rw [visit_hit hget hl] at h
        exact .inr ⟨hold h, nofun⟩
      | none =>
        rw [(visit_missed hget hl).2] at h
        cases hf : layer.filing? v with
        | none =>
          rw [hf] at h
          exact .inr ⟨hold h, nofun⟩
        | some f =>
          rw [hf] at h
          rcases holds_store hb (sound_lookup hb hl hs) (filing?_storable hf).2 h with ⟨hw, hnew⟩ | ⟨hh, hw⟩
          · exact .inl ⟨f, Option.filter_eq_some_iff.mpr ⟨rfl, hw⟩, hnew⟩
          · refine .inr ⟨hold hh, fun g hg => ?_⟩
            obtain ⟨hfg, hgw⟩ := Option.filter_eq_some_iff.mp hg
            obtain rfl := Option.some.inj hfg
            exact hw hgw
  · rw [(visit_other hget).2] at h
    refine .inr ⟨h, fun f hf => ?_⟩
    rw [Layer.filed?, if_pos hget] at hf
    cases hf

/-! ## Which visits file under a key -/

variable {f : Filing} {contexts : List String}

theorem variantKey_some {key : String} (h : layer.variantKey base headers contexts = some key) :
    ∃ text, layer.contextText headers contexts = some text ∧ key = base ++ "#" ++ text := by
  rw [variantKey_eq] at h
  obtain ⟨text, ht, rfl⟩ := Option.map_eq_some_iff.mp h
  exact ⟨text, ht, rfl⟩

/-- A page under the key of an address belongs to this address, and has no contexts. -/
theorem target_of_address (hf : layer.filing? v = some f) (hv : Plain v.request.target) (ht : Plain t)
    (hk : f.key = baseKey t) : v.request.target = t ∧ f.about.contexts = [] := by
  obtain ⟨-, -, -, -, ⟨hc, hkey⟩ | hkey⟩ := filing?_some hf
  · exact ⟨baseKey_injective hv ht (hkey.symm.trans hk), hc⟩
  · obtain ⟨text, -, he⟩ := variantKey_some hkey
    exact absurd (by simp [← hk, he]) (hash_not_mem_baseKey ht)

/-- A page under the key of a variant belongs to the same address, and its contexts have the same
text. -/
theorem target_of_variant (hf : layer.filing? v = some f) (hv : Plain v.request.target) (ht : Plain t)
    (hk : layer.variantKey (baseKey t) headers contexts = some f.key) :
    v.request.target = t ∧ ∃ text, layer.contextText headers contexts = some text ∧
      layer.contextText v.request.headers f.about.contexts = some text := by
  obtain ⟨text, htext, he⟩ := variantKey_some hk
  obtain ⟨-, -, -, -, ⟨-, hkey⟩ | hkey⟩ := filing?_some hf
  · exact absurd (by simp [← show f.key = baseKey v.request.target from hkey, he]) (hash_not_mem_baseKey hv)
  · obtain ⟨text', htext', he'⟩ := variantKey_some hkey
    have ⟨hb, ht'⟩ := hash_append_inj (hash_not_mem_baseKey hv) (hash_not_mem_baseKey ht)
      (he'.symm.trans he)
    exact ⟨baseKey_injective hv ht hb, text, htext, ht' ▸ htext'⟩

end Page
end TaggedCache
