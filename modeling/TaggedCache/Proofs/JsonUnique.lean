import TaggedCache.Proofs.Json

/-!
# Written JSON says where it ends

The compact text of a value without floats is the beginning of no other one: whatever stands behind it, the text
gives the value back (`chars_append_inj`). There is no bound on the integers or on the depth, so this holds of more
values than the reader takes.
-/

namespace TaggedCache

theorem Numeral.digits_injective {m n : Nat} (h : digits m = digits n) : m = n := by
  have hm := valueFrom?_digits m
  rw [h, valueFrom?_digits n] at hm
  exact (Option.some.inj hm).symm

theorem Numeral.ofInt_injective {i j : Int} (h : ofInt i = ofInt j) : i = j := by
  have hminus : ∀ m n : Nat, '-' :: digits m ≠ digits n := fun m n he =>
    absurd (digits_all n '-' (he ▸ List.mem_cons_self)) (by decide)
  unfold ofInt at h
  split at h
  · split at h
    · have := digits_injective (List.cons.inj h).2
      omega
    · exact absurd h (hminus _ _)
  · split at h
    · exact absurd h.symm (hminus _ _)
    · have := digits_injective h
      omega

namespace Json

variable {v w : Json} {rest more : List Char}

/-- No float lies inside. -/
inductive FloatFree : Json → Prop where
  | null : FloatFree .null
  | bool (b : Bool) : FloatFree (.bool b)
  | integer (i : Int) : FloatFree (.number (.integer i))
  | text (s : String) : FloatFree (.text s)
  | array {items : List Json} (h : ∀ v ∈ items, FloatFree v) : FloatFree (.array items)
  | object {members : List (String × Json)} (h : ∀ m ∈ members, FloatFree m.2) : FloatFree (.object members)

/-! ## Texts and integers -/

/-- A quoted text says where it ends. -/
theorem quote_append_inj {s t : String} (h : quote s ++ rest = quote t ++ more) : s = t ∧ rest = more := by
  have hopen : ∀ (s : String) (rest : List Char),
      quote s ++ rest = '"' :: (s.toList.flatMap escapeChar ++ '"' :: rest) := by
    simp [quote]
  rw [hopen, hopen] at h
  have htail := (List.cons.inj h).2
  -- Read with enough fuel for both, the same characters give both texts.
  have hfuel : s.toList.length < s.toList.length + t.toList.length + 1 := by omega
  have hmore : t.toList.length < s.toList.length + t.toList.length + 1 := by omega
  have hs := readTextFrom_quote rest hfuel
  rw [htail, readTextFrom_quote more hmore] at hs
  obtain ⟨htext, hrest⟩ := Prod.mk.inj (Option.some.inj hs)
  exact ⟨String.toList_inj.mp htext.symm, hrest.symm⟩

theorem ofInt_append_inj {i j : Int} (hr : Ends rest) (hm : Ends more)
    (h : Numeral.ofInt i ++ rest = Numeral.ofInt j ++ more) : i = j ∧ rest = more := by
  have hnumber : ∀ i : Int, ∀ c ∈ Numeral.ofInt i, isNumberChar c = true := by
    intro i c hc
    obtain ⟨d, word, hi, hd, hword⟩ := ofInt_leads i
    rw [hi] at hc
    rcases List.mem_cons.mp hc with rfl | hc
    · exact hd.plain.2.2.2.2
    · exact hword c hc
  have ⟨htake, hdrop⟩ := takeWhile_ends (hnumber i) fun c hc => (hr c hc).2
  have ⟨htake', hdrop'⟩ := takeWhile_ends (hnumber j) fun c hc => (hm c hc).2
  rw [h, htake'] at htake
  rw [h, hdrop'] at hdrop
  exact ⟨(Numeral.ofInt_injective htake).symm, hdrop.symm⟩

/-! ## First characters -/

/-- The six kinds of values. -/
inductive Shape where
  | null
  | bool
  | number
  | text
  | array
  | object

def shape : Json → Shape
  | .null => .null
  | .bool _ => .bool
  | .number _ => .number
  | .text _ => .text
  | .array _ => .array
  | .object _ => .object

/-- The kind of value that begins with a character. -/
def shapeOf? (c : Char) : Option Shape :=
  if c = '-' || (Numeral.digitValue? c).isSome then some .number
  else match c with
    | 'n' => some .null
    | 't' | 'f' => some .bool
    | '"' => some .text
    | '[' => some .array
    | '\x7b' => some .object
    | _ => none

theorem chars_begin (hv : FloatFree v) : ∃ c cs, v.chars = c :: cs ∧ shapeOf? c = some v.shape := by
  cases hv with
  | null => exact ⟨_, _, rfl, rfl⟩
  | bool b => cases b <;> exact ⟨_, _, rfl, rfl⟩
  | integer i =>
    obtain ⟨c, word, hi, hc, -⟩ := ofInt_leads i
    refine ⟨c, word, hi, if_pos ?_⟩
    simpa [Leads] using hc
  | text s => exact ⟨_, _, rfl, rfl⟩
  | array h => exact ⟨_, _, rfl, rfl⟩
  | object h => exact ⟨_, _, rfl, rfl⟩

theorem shape_eq (hv : FloatFree v) (hw : FloatFree w) (h : v.chars ++ rest = w.chars ++ more) :
    v.shape = w.shape := by
  obtain ⟨c, cs, hc, hshape⟩ := chars_begin hv
  obtain ⟨d, ds, hd, hshape'⟩ := chars_begin hw
  rw [hc, hd] at h
  rw [(List.cons.inj h).1, hshape'] at hshape
  exact (Option.some.inj hshape).symm

theorem chars_ne_close (hv : FloatFree v) : v.chars ++ rest ≠ ']' :: more := by
  obtain ⟨c, cs, hc, hshape⟩ := chars_begin hv
  intro h
  rw [hc] at h
  rw [(List.cons.inj h).1] at hshape
  cases hshape

/-! ## Lists -/

section

variable {α : Type} {f : α → List Char} {close : Char} {t : Token} {x : α} {xs ys : List α}

theorem joinChars_cons_append (x : α) (xs : List α) (cs : List Char) :
    Text.joinChars [','] ((x :: xs).map f) ++ cs =
      f x ++ (if xs = [] then cs else ',' :: (Text.joinChars [','] (xs.map f) ++ cs)) := by
  cases xs with
  | nil => rfl
  | cons y ys => simp [Text.joinChars]

/-- A list with commas and a closing mark says where it ends when its elements do and none begins with the mark. -/
theorem joinChars_append_inj (hclose : punctuation? close = some t) (hcomma : close ≠ ',')
    (hinj : ∀ x ∈ xs, ∀ y ∈ ys, ∀ rest more, Ends rest → Ends more →
      f x ++ rest = f y ++ more → x = y ∧ rest = more)
    (hx : ∀ x ∈ xs, ∀ rest more, f x ++ rest ≠ close :: more)
    (hy : ∀ y ∈ ys, ∀ rest more, f y ++ rest ≠ close :: more)
    (h : Text.joinChars [','] (xs.map f) ++ close :: rest = Text.joinChars [','] (ys.map f) ++ close :: more) :
    xs = ys ∧ rest = more := by
  have hends : ∀ (zs : List α) (cs : List Char),
      Ends (if zs = [] then close :: cs else ',' :: (Text.joinChars [','] (zs.map f) ++ close :: cs)) := by
    intro zs cs
    split
    · exact ends_punctuation hclose
    · exact ends_punctuation (t := .comma) rfl
  induction xs generalizing ys with
  | nil =>
    cases ys with
    | nil => exact ⟨rfl, (List.cons.inj h).2⟩
    | cons y ys =>
      rw [joinChars_cons_append] at h
      exact absurd h.symm (hy y List.mem_cons_self _ _)
  | cons x xs ih =>
    cases ys with
    | nil =>
      rw [joinChars_cons_append] at h
      exact absurd h (hx x List.mem_cons_self _ _)
    | cons y ys =>
      rw [joinChars_cons_append, joinChars_cons_append] at h
      obtain ⟨rfl, htail⟩ := hinj x List.mem_cons_self y List.mem_cons_self _ _ (hends xs rest) (hends ys more) h
      split at htail
      · next hxs =>
        split at htail
        · next hys => exact ⟨by rw [hxs, hys], (List.cons.inj htail).2⟩
        · exact absurd (List.cons.inj htail).1 hcomma
      · split at htail
        · exact absurd (List.cons.inj htail).1.symm hcomma
        · obtain ⟨rfl, hrest⟩ := ih
            (fun x hx y hy => hinj x (List.mem_cons_of_mem _ hx) y (List.mem_cons_of_mem _ hy))
            (fun x hx' => hx x (List.mem_cons_of_mem _ hx')) (fun y hy' => hy y (List.mem_cons_of_mem _ hy'))
            (List.cons.inj htail).2
          exact ⟨rfl, hrest⟩

end

theorem pairChars_ne_close (m : String × Json) : pairChars m ++ rest ≠ '\x7d' :: more :=
  fun h => absurd (List.cons.inj h).1 (by decide)

theorem pairChars_append_inj {m n : String × Json} (hm : ∀ {rest more : List Char}, Ends rest → Ends more →
    m.2.chars ++ rest = n.2.chars ++ more → m.2 = n.2 ∧ rest = more) (hr : Ends rest) (hmore : Ends more)
    (h : pairChars m ++ rest = pairChars n ++ more) : m = n ∧ rest = more := by
  rw [pairChars, pairChars, List.append_assoc, List.append_assoc] at h
  obtain ⟨hkey, htail⟩ := quote_append_inj h
  obtain ⟨hvalue, hrest⟩ := hm hr hmore (List.cons.inj htail).2
  exact ⟨Prod.ext hkey hvalue, hrest⟩

/-! ## Values -/

/-- Where the text of a value ends no number and no name goes on, so the text gives the value back. -/
theorem chars_append_inj (hv : FloatFree v) (hw : FloatFree w) (hr : Ends rest) (hm : Ends more)
    (h : v.chars ++ rest = w.chars ++ more) : v = w ∧ rest = more := by
  induction hv generalizing w rest more with
  | null =>
    have hshape := shape_eq .null hw h
    cases hw with
    | null => exact ⟨rfl, List.append_cancel_left h⟩
    | _ => cases hshape
  | bool b =>
    have hshape := shape_eq (.bool b) hw h
    cases hw with
    | bool c =>
      cases b <;> cases c
      · exact ⟨rfl, List.append_cancel_left h⟩
      · exact absurd (List.cons.inj h).1 (by decide)
      · exact absurd (List.cons.inj h).1 (by decide)
      · exact ⟨rfl, List.append_cancel_left h⟩
    | _ => cases hshape
  | integer i =>
    have hshape := shape_eq (.integer i) hw h
    cases hw with
    | integer j =>
      obtain ⟨rfl, hrest⟩ := ofInt_append_inj hr hm h
      exact ⟨rfl, hrest⟩
    | _ => cases hshape
  | text s =>
    have hshape := shape_eq (.text s) hw h
    cases hw with
    | text t =>
      obtain ⟨rfl, hrest⟩ := quote_append_inj h
      exact ⟨rfl, hrest⟩
    | _ => cases hshape
  | @array items hitems ih =>
    have hshape := shape_eq (.array hitems) hw h
    cases hw with
    | @array others hothers =>
      rw [chars, chars, itemChars_eq, itemChars_eq, List.append_assoc, List.append_assoc] at h
      obtain ⟨rfl, hrest⟩ := joinChars_append_inj rfl (by decide)
        (fun v hv w hw _ _ hr hm => ih v hv (hothers w hw) hr hm)
        (fun v hv _ _ => chars_ne_close (hitems v hv)) (fun w hw _ _ => chars_ne_close (hothers w hw))
        (List.cons.inj h).2
      exact ⟨rfl, hrest⟩
    | _ => cases hshape
  | @object members hmembers ih =>
    have hshape := shape_eq (.object hmembers) hw h
    cases hw with
    | @object others hothers =>
      rw [chars, chars, memberChars_eq, memberChars_eq, List.append_assoc, List.append_assoc] at h
      obtain ⟨rfl, hrest⟩ := joinChars_append_inj rfl (by decide)
        (fun m hm n hn _ _ hr hmore => pairChars_append_inj (ih m hm (hothers n hn)) hr hmore)
        (fun m _ _ _ => pairChars_ne_close m) (fun m _ _ _ => pairChars_ne_close m) (List.cons.inj h).2
      exact ⟨rfl, hrest⟩
    | _ => cases hshape

/-- Two values without floats have the same compact text only when they are the same. -/
theorem chars_injective (hv : FloatFree v) (hw : FloatFree w) (h : v.chars = w.chars) : v = w := by
  have hends : Ends [] := by simp [Ends]
  exact (chars_append_inj hv hw hends hends (congrArg (· ++ []) h)).1

end Json
end TaggedCache
