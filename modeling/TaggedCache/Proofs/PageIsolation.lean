import TaggedCache.Proofs.Page

/-!
# When pages are served to the requests they were made for

A page that varies by contexts should be served to requests for which these contexts have the same values.
This holds in every run and with every kind of bin exactly when the text of some contexts tells their
values apart (`isolates_iff_separates`). The text is not escaped, so a value may go on like the next
context, and then it does not.
-/

namespace TaggedCache
namespace Page

variable {β : Type} [Storage β]

/-- The bin after some visits. -/
def Layer.after (layer : Layer) (past : List Visit) (bin : β) : β :=
  past.foldl (fun bin v => (layer.visit v bin).2) bin

/-- The page that a visit files under a key. -/
def Layer.filedUnder? (layer : Layer) (key : String) (v : Visit) (bin : β) : Option (Visit × Filing) :=
  (layer.filed? v bin).bind fun f => if f.key = key then some (v, f) else none

/-- The last visit that filed a page under a key, with this page. -/
def Layer.lastFiled? (layer : Layer) (key : String) : List Visit → β → Option (Visit × Filing)
  | [], _ => none
  | v :: rest, bin =>
    (layer.lastFiled? key rest (layer.visit v bin).2).or (layer.filedUnder? key v bin)

/-- The value of a context in the headers of a request. -/
def Layer.value (layer : Layer) (headers : Headers) (token : String) : Option String :=
  layer.resolver.bind fun resolve => resolve headers token

/-- Whatever kind the bin is of and whatever was visited before: a request that is answered from the bin
gets the last page that was filed under its key, and that page was made for the same address and for the
same values of its contexts. -/
def Layer.Isolates (layer : Layer) : Prop :=
  ∀ (β : Type) [Storage β] (sound : β → Prop) (holds : β → String → Item → Prop),
    Holding sound holds → ∀ (bin : β), sound bin → (∀ k i, ¬ holds bin k i) →
    ∀ (past : List Visit) (v : Visit),
      (∀ u ∈ past ++ [v], u.request.method = "GET" ∧ Plain u.request.target) →
      (layer.visit v (layer.after past bin)).1.handled = false →
      ∃ key u f, layer.servedKey? v.now v.address v.request.headers (layer.after past bin) = some key ∧
        layer.lastFiled? key past bin = some (u, f) ∧
        f.record.response? = some (layer.visit v (layer.after past bin)).1.response ∧
        u.request.target = v.request.target ∧
        ∀ t ∈ f.about.contexts, layer.value u.request.headers t = layer.value v.request.headers t

/-- Contexts of the same text have the same values, whatever handlers report them. -/
def Layer.Separates (layer : Layer) : Prop :=
  ∀ (a b : Handled) (m n : Metadata) (g h : Headers) (text : String),
    cacheability a = some m → m.shouldStore = true → cacheability b = some n → n.shouldStore = true →
    layer.contextText g m.contexts = some text → layer.contextText h n.contexts = some text →
    ∀ t ∈ n.contexts, layer.value h t = layer.value g t

/-! ## What is held was filed -/

variable {layer : Layer} {past : List Visit} {bin : β} {v u : Visit} {k key : String} {i : Item}
  {f : Filing} {sound : β → Prop} {holds : β → String → Item → Prop}

theorem after_concat : layer.after (past ++ [v]) bin = (layer.visit v (layer.after past bin)).2 :=
  List.foldl_concat _ _ _ _

theorem lastFiled?_concat : layer.lastFiled? key (past ++ [v]) bin =
    (layer.filedUnder? key v (layer.after past bin)).or (layer.lastFiled? key past bin) := by
  induction past generalizing bin with
  | nil => simp [Layer.lastFiled?, Layer.after]
  | cons u rest ih =>
    rw [List.cons_append, Layer.lastFiled?, ih, Layer.lastFiled?, Option.or_assoc]
    rfl

theorem filedUnder?_some (h : layer.filedUnder? key v bin = some (u, f)) :
    u = v ∧ f.key = key ∧ layer.filed? v bin = some f := by
  obtain ⟨g, hg, hif⟩ := Option.bind_eq_some_iff.mp h
  split at hif
  · next hk =>
    obtain ⟨rfl, rfl⟩ := Prod.mk.inj (Option.some.inj hif)
    exact ⟨rfl, hk, hg⟩
  · cases hif

theorem filedUnder?_eq_none (h : ∀ f, layer.filed? v bin = some f → key ≠ f.key) :
    layer.filedUnder? key v bin = none := by
  cases hu : layer.filedUnder? key v bin with
  | none => rfl
  | some p =>
    obtain ⟨-, hk, hf⟩ := filedUnder?_some (u := p.1) (f := p.2) hu
    exact absurd hk.symm (h p.2 hf)

theorem lastFiled?_some (h : layer.lastFiled? key past bin = some (u, f)) :
    u ∈ past ∧ f.key = key ∧ layer.filing? u = some f := by
  induction past generalizing bin with
  | nil => cases h
  | cons v rest ih =>
    rcases Option.or_eq_some_iff.mp h with hrest | ⟨-, hv⟩
    · have ⟨hm, hk⟩ := ih hrest
      exact ⟨List.mem_cons_of_mem v hm, hk⟩
    · obtain ⟨rfl, hk, hf⟩ := filedUnder?_some hv
      exact ⟨List.mem_cons_self, hk, (ran_of_filed hf).2.2⟩

/-- An item is the page last filed under its key, or the contexts of a page that some visit made. -/
def Layer.Sourced (layer : Layer) (past : List Visit) (bin : β) (k : String) (i : Item) : Prop :=
  (∃ u f, layer.lastFiled? k past bin = some (u, f) ∧ i = f.item u.finished) ∨
    ∃ u f, layer.filing? u = some f ∧ i = f.list u.finished

theorem sourced_visit (hb : Holding sound holds) (hs : sound (layer.after past bin))
    (h : ∀ k i, holds (layer.after past bin) k i → layer.Sourced past bin k i)
    (hi : holds (layer.visit v (layer.after past bin)).2 k i) : layer.Sourced (past ++ [v]) bin k i := by
  unfold Layer.Sourced
  rw [lastFiled?_concat]
  rcases holds_visit hb hs hi with ⟨f, hf, ⟨rfl, rfl⟩ | ⟨rfl, rfl⟩⟩ | ⟨hold, hne⟩
  · refine .inl ⟨v, f, ?_, rfl⟩
    rw [Layer.filedUnder?, hf, Option.bind_some, if_pos rfl, Option.some_or]
  · exact .inr ⟨v, f, (ran_of_filed hf).2.2, rfl⟩
  · rw [filedUnder?_eq_none hne, Option.none_or]
    exact h k i hold

theorem sound_after (hb : Holding sound holds) (hs : sound bin) (past : List Visit) :
    sound (layer.after past bin) := by
  induction past generalizing bin with
  | nil => exact hs
  | cons v rest ih => exact ih (sound_visit hb hs)

theorem sourced_after (hb : Holding sound holds) (hs : sound bin) (hempty : ∀ k i, ¬ holds bin k i)
    (past : List Visit) :
    ∀ k i, holds (layer.after past bin) k i → layer.Sourced past bin k i := by
  induction past using List.reverseRecOn with
  | nil => exact fun k i hi => absurd hi (hempty k i)
  | append_singleton past v ih =>
    intro k i hi
    rw [after_concat] at hi
    exact sourced_visit hb (sound_after hb hs past) ih hi

/-! ## Where an answer comes from -/

/-- An answer from the bin is the page last filed under its key. It was made for the same address; and
either it has no contexts, or they have the same text as the contexts of some page have now. -/
theorem served_from (hb : Holding sound holds) (hs : sound bin) (hempty : ∀ k i, ¬ holds bin k i)
    (hplain : ∀ u ∈ past ++ [v], u.request.method = "GET" ∧ Plain u.request.target)
    (h : (layer.visit v (layer.after past bin)).1.handled = false) :
    ∃ key u f, layer.servedKey? v.now v.address v.request.headers (layer.after past bin) = some key ∧
      layer.lastFiled? key past bin = some (u, f) ∧
      f.record.response? = some (layer.visit v (layer.after past bin)).1.response ∧
      u.request.target = v.request.target ∧
      (f.about.contexts = [] ∨ ∃ w g text, layer.filing? w = some g ∧
        layer.contextText v.request.headers g.about.contexts = some text ∧
        layer.contextText u.request.headers f.about.contexts = some text) := by
  obtain ⟨key, item, record, hkey, hi, -, hd, hresponse, hwhere⟩ :=
    lookup_some hb (of_not_handled h).2
  have hsource : ∀ k i, holds (layer.after past bin) k i → layer.Sourced past bin k i :=
    sourced_after hb hs hempty past
  rcases hsource key item hi with ⟨u, f, hlast, rfl⟩ | ⟨u, f, hf, rfl⟩
  · have ⟨hmem, hfkey, hf⟩ := lastFiled?_some hlast
    have hu := (hplain u (List.mem_append_left _ hmem)).2
    have hv := (hplain v (by simp)).2
    rw [decode?_item hf] at hd
    obtain rfl := Option.some.inj hd
    refine ⟨key, u, f, hkey, hlast, hresponse, ?_⟩
    rcases hwhere with rfl | ⟨vary, contexts, hvary, hdv, hvk⟩
    · have ⟨ht, hc⟩ := target_of_address hf hu hv hfkey
      exact ⟨ht, .inl hc⟩
    · have ⟨ht, text, hnow, hthen⟩ := target_of_variant hf hu hv (hfkey ▸ hvk)
      refine ⟨ht, .inr ?_⟩
      rcases hsource v.address vary hvary with ⟨w, g, hlast', rfl⟩ | ⟨w, g, hg, rfl⟩
      · have hg := (lastFiled?_some hlast').2.2
        rw [decode?_item hg] at hdv
        exact absurd (Option.some.inj hdv) (record_ne_vary hg contexts)
      · rw [decode?_list] at hdv
        obtain rfl := Record.vary.inj (Option.some.inj hdv)
        exact ⟨w, g, text, hg, hnow, hthen⟩
  · rw [decode?_list] at hd
    obtain rfl := Option.some.inj hd
    cases hresponse

theorem isolates_of_separates (h : layer.Separates) : layer.Isolates := by
  intro β _ sound holds hb bin hs hempty past v hplain hserved
  obtain ⟨key, u, f, hkey, hlast, hresponse, ht, hc⟩ := served_from hb hs hempty hplain hserved
  refine ⟨key, u, f, hkey, hlast, hresponse, ht, fun t hm => ?_⟩
  rcases hc with hc | ⟨w, g, text, hg, hnow, hthen⟩
  · simp [hc] at hm
  · obtain ⟨hwc, hws, -⟩ := filing?_some hg
    obtain ⟨huc, hus, -⟩ := filing?_some (lastFiled?_some hlast).2.2
    exact h _ _ _ _ _ _ _ hwc hws huc hus hnow hthen t hm

/-! ## Values without brackets -/

theorem contextParts_cons {resolve : String → Option String} {t : String} {rest parts : List String}
    (h : (t :: rest).mapM (contextPart resolve) = some parts) :
    ∃ value more, resolve t = some value ∧ rest.mapM (contextPart resolve) = some more ∧
      parts = ("[" ++ t ++ "]=" ++ value) :: more := by
  rw [List.mapM_cons] at h
  obtain ⟨part, hpart, h⟩ := Option.bind_eq_some_iff.mp h
  obtain ⟨more, hmore, h⟩ := Option.bind_eq_some_iff.mp h
  obtain ⟨value, hvalue, rfl⟩ := Option.map_eq_some_iff.mp hpart
  exact ⟨value, more, hvalue, hmore, (Option.some.inj h).symm⟩

/-- The parts one after another, as they stand in a key. -/
def joined (parts : List String) : List Char := Text.joinChars [':'] (parts.map String.toList)

theorem joined_cons (t value : String) (parts : List String) :
    joined (("[" ++ t ++ "]=" ++ value) :: parts) =
      '[' :: (t.toList ++ ']' :: ('=' ::
        (value.toList ++ if parts = [] then [] else ':' :: joined parts))) := by
  unfold joined
  cases parts with
  | nil => simp [Text.joinChars]
  | cons part parts => simp [Text.joinChars]

/-- Behind the value of a context comes nothing, or the bracket of the next one behind a colon. -/
theorem joined_rest {resolve : String → Option String} {rest parts : List String}
    (h : rest.mapM (contextPart resolve) = some parts) :
    (rest = [] ∧ (if parts = [] then [] else ':' :: joined parts) = []) ∨
      ∃ back, (if parts = [] then [] else ':' :: joined parts) = ':' :: '[' :: back ∧
        joined parts = '[' :: back := by
  cases rest with
  | nil =>
    obtain rfl := Option.some.inj h
    exact .inl ⟨rfl, rfl⟩
  | cons t rest =>
    obtain ⟨value, more, -, -, rfl⟩ := contextParts_cons h
    rw [joined_cons]
    exact .inr ⟨_, rfl, rfl⟩

/-- The values have no opening bracket, and the names of contexts no closing one. -/
def Unbracketed (resolve : String → Option String) : Prop :=
  ∀ token value, resolve token = some value → ']' ∉ token.toList ∧ '[' ∉ value.toList

theorem joined_inj {r s : String → Option String} (hr : Unbracketed r) (hs : Unbracketed s)
    {ts us ps qs : List String} (hp : ts.mapM (contextPart r) = some ps)
    (hq : us.mapM (contextPart s) = some qs) (h : joined ps = joined qs) : ∀ u ∈ us, s u = r u := by
  induction us generalizing ts ps qs with
  | nil => exact fun u hu => by cases hu
  | cons u us ih =>
    obtain ⟨w, qs, hw, hqs, rfl⟩ := contextParts_cons hq
    cases ts with
    | nil =>
      obtain rfl := Option.some.inj hp
      rw [joined_cons] at h
      cases h
    | cons t ts =>
      obtain ⟨v, ps, hv, hps, rfl⟩ := contextParts_cons hp
      rw [joined_cons, joined_cons] at h
      have ⟨htu, hrest⟩ := append_cons_inj (hr t v hv).1 (hs u w hw).1 (List.cons.inj h).2
      obtain rfl := String.toList_inj.mp htu
      replace hrest := (List.cons.inj hrest).2
      have hvw : v = w ∧ ∀ u ∈ us, s u = r u := by
        rcases joined_rest hps with ⟨-, hts⟩ | ⟨back, hts, hback⟩
        · rcases joined_rest hqs with ⟨rfl, hus⟩ | ⟨back', hus, -⟩
          · rw [hts, hus, List.append_nil, List.append_nil] at hrest
            exact ⟨String.toList_inj.mp hrest, fun u hu => by cases hu⟩
          · rw [hts, hus, List.append_nil] at hrest
            exact absurd (by simp [hrest]) (hr t v hv).2
        · rcases joined_rest hqs with ⟨-, hus⟩ | ⟨back', hus, hback'⟩
          · rw [hts, hus, List.append_nil] at hrest
            exact absurd (by simp [← hrest]) (hs t w hw).2
          · -- The next bracket is the first one behind both values.
            rw [hts, hus] at hrest
            have hcut : (v.toList ++ [':']) ++ '[' :: back = (w.toList ++ [':']) ++ '[' :: back' := by
              simpa using hrest
            have hv' : '[' ∉ v.toList ++ [':'] := by simp [(hr t v hv).2]
            have hw' : '[' ∉ w.toList ++ [':'] := by simp [(hs t w hw).2]
            have ⟨hvalue, hnext⟩ := append_cons_inj hv' hw' hcut
            refine ⟨String.toList_inj.mp (List.append_cancel_right hvalue), ih hps hqs ?_⟩
            rw [hback, hback', hnext]
      intro u' hu'
      rcases List.mem_cons.mp hu' with rfl | hu'
      · rw [hw, hv, hvw.1]
      · exact hvw.2 u' hu'

/-- Without brackets in values and names, contexts tell their values apart. -/
theorem isolates_of_unbracketed {resolve : Resolver} (hl : layer.resolver = some resolve)
    (h : ∀ headers, Unbracketed (resolve headers)) : layer.Isolates := by
  refine isolates_of_separates fun a b m n g h' text _ _ _ _ hg hh t ht => ?_
  have hparts : ∀ {headers contexts}, layer.contextText headers contexts = some text →
      ∃ parts, contexts.mapM (contextPart (resolve headers)) = some parts ∧ joined parts = text.toList := by
    intro headers contexts htext
    rw [Layer.contextText, hl, Option.bind_eq_bind, Option.bind_some] at htext
    obtain ⟨parts, hp, hj⟩ := Option.bind_eq_some_iff.mp htext
    refine ⟨parts, hp, ?_⟩
    rw [← Option.some.inj hj, Text.join, String.toList_ofList]
    rfl
  obtain ⟨ps, hps, hp⟩ := hparts hg
  obtain ⟨qs, hqs, hq⟩ := hparts hh
  rw [Layer.value, Layer.value, hl]
  exact joined_inj (h g) (h h') hps hqs (hp.trans hq.symm) t ht

end Page
end TaggedCache
