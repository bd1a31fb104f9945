import TaggedCache.Proofs.Json
import TaggedCache.Proofs.Outcome
import TaggedCache.Query.Param

/-!
# Inside a parameter

A parameter holds others, at any depth. `walk` lists them all, the outer before the inner and a key before its
value, and `plug` puts a value into a place. The flaw that is found is the first in the order of `walk`
(`flaw?_eq_walk`). A value without a flaw is written unless a map inside has a key that is no text
(`chars_result`), and what a float is written as in its place is its own number (`chars_plug_float`).
-/

namespace TaggedCache

/-- Looking into one list after the other is looking into all of them at once. -/
theorem findSome?_flatMap {α δ γ : Type} {g : δ → List α} {k : α → Option γ} {look : δ → Option γ} {xs : List δ}
    (h : ∀ x ∈ xs, look x = (g x).findSome? k) : xs.findSome? look = (xs.flatMap g).findSome? k := by
  induction xs with
  | nil => rfl
  | cons x xs ih =>
    rw [List.findSome?_cons, List.flatMap_cons, List.findSome?_append, ← h x List.mem_cons_self,
      ih fun z hz => h z (List.mem_cons_of_mem _ hz)]
    cases look x <;> rfl

/-! ## The text of a number -/

namespace Decimal

/-- Decimal text that begins with a sign or a digit. -/
def Numeric (cs : List Char) : Prop := ∃ c rest, cs = c :: rest ∧ Json.Leads c

theorem numeric_digits (n : Nat) : Numeric (Numeral.digits n) := by
  obtain ⟨c, rest, hc⟩ := List.exists_cons_of_ne_nil (Numeral.digits_ne_nil n)
  exact ⟨c, rest, hc, .inr (Numeral.digits_all n c (hc ▸ List.mem_cons_self))⟩

theorem Numeric.append {cs : List Char} (h : Numeric cs) (more : List Char) : Numeric (cs ++ more) := by
  obtain ⟨c, rest, rfl, hc⟩ := h
  exact ⟨c, rest ++ more, rfl, hc⟩

theorem Numeric.take {cs : List Char} (h : Numeric cs) {n : Nat} (hn : 0 < n) : Numeric (cs.take n) := by
  obtain ⟨c, rest, rfl, hc⟩ := h
  obtain ⟨m, rfl⟩ := Nat.exists_eq_add_of_lt hn
  exact ⟨c, rest.take m, by simp [List.take_succ_cons], hc⟩

theorem numeric_positionalText {digits : List Char} (h : Numeric digits) (keep : Bool) (exponent : Int) :
    Numeric (positionalText keep digits exponent) := by
  unfold positionalText
  split
  · exact (h.append _).append _
  · dsimp only
    split
    · exact (h.take (by omega)).append _
    · exact ⟨'0', _, rfl, .inr rfl⟩

theorem numeric_exponentText {digits : List Char} (h : Numeric digits) (exponent : Int) :
    Numeric (exponentText digits exponent) :=
  ((h.take Nat.one_pos).append _).append _

theorem numeric_magnitudeText (n : Notation) (m : Nat) (e : Int) : Numeric (n.magnitudeText m e) := by
  unfold Notation.magnitudeText
  dsimp only
  split
  · exact numeric_positionalText (numeric_digits _) _ _
  · split
    · exact numeric_positionalText (numeric_digits _) _ _
    · exact numeric_exponentText (numeric_digits _) _

theorem numeric_text (n : Notation) {x : Floating} (h : x.isFinite = true) : Numeric (n.text x) := by
  cases x with
  | finite negative m e =>
    cases negative
    · exact numeric_magnitudeText n m e
    · exact ⟨'-', _, rfl, .inl rfl⟩
  | _ => cases h

end Decimal

namespace Json

theorem floatText_ne_null (n : Decimal.Notation) {x : Floating} (h : x.isFinite = true) :
    floatText n x ≠ null.chars := by
  rw [floatText, if_pos h]
  obtain ⟨c, cs, hc, hleads⟩ := Decimal.numeric_text n h
  intro hnull
  rw [hc] at hnull
  rw [(List.cons.inj hnull).1] at hleads
  exact absurd hleads (by unfold Leads; decide)

end Json

namespace Param

variable {p q r : Param} {cs : List Char} {reason : String}

/-! ## Places -/

/-- The two sides of an entry, the key first. -/
def sides (e : Param × Param) : List Param := [e.1, e.2]

/-- What stands directly inside a value. -/
def parts : Param → List Param
  | .wrapped p | .labelled _ p => [p]
  | .list items => items
  | .map entries => entries.flatMap sides
  | .record fields => fields.map Prod.snd
  | _ => []

theorem mem_sides {e : Param × Param} : q ∈ sides e ↔ q = e.1 ∨ q = e.2 := by simp [sides]

theorem sizeOf_part (h : q ∈ parts p) : sizeOf q < sizeOf p := by
  cases p with
  | wrapped p | labelled name p =>
    rw [parts, List.mem_singleton] at h
    subst h
    simp +arith
  | list items => exact Nat.lt_trans (List.sizeOf_lt_of_mem h) (by simp [parts])
  | map entries =>
    obtain ⟨⟨k, v⟩, he, hq⟩ := List.mem_flatMap.mp h
    have hlt := List.sizeOf_lt_of_mem he
    rcases mem_sides.mp hq with rfl | rfl <;> simp at hlt ⊢ <;> omega
  | record fields =>
    obtain ⟨⟨k, v⟩, he, rfl⟩ := List.mem_map.mp h
    have hlt := List.sizeOf_lt_of_mem he
    simp at hlt ⊢
    omega
  | _ => cases h

theorem part_induction {P : Param → Prop} (step : ∀ p, (∀ q ∈ parts p, P q) → P p) (p : Param) : P p :=
  step p fun q _ => part_induction step q
termination_by sizeOf p
decreasing_by exact sizeOf_part ‹_›

/-- A value and everything inside it, depth first. -/
def walk (p : Param) : List Param := p :: (parts p).attach.flatMap fun q => walk q.1
termination_by sizeOf p
decreasing_by exact sizeOf_part q.2

theorem walk_eq (p : Param) : walk p = p :: (parts p).flatMap walk := by
  rw [walk]
  simp

/-- What stands around a part of a value. -/
inductive Frame where
  | wrapped
  | labelled (name : String)
  | item (before after : List Param)
  | key (before : List (Param × Param)) (value : Param) (after : List (Param × Param))
  | value (before : List (Param × Param)) (key : Param) (after : List (Param × Param))
  | field (before : List (String × Param)) (name : String) (after : List (String × Param))

def Frame.fill : Frame → Param → Param
  | .wrapped, p => .wrapped p
  | .labelled name, p => .labelled name p
  | .item before after, p => .list (before ++ p :: after)
  | .key before v after, p => .map (before ++ (p, v) :: after)
  | .value before k after, p => .map (before ++ (k, p) :: after)
  | .field before name after, p => .record (before ++ (name, p) :: after)

/-- The value with another one in the place to which a path of frames leads from outside. -/
def plug (path : List Frame) (p : Param) : Param := path.foldr Frame.fill p

variable {f : Frame} {path : List Frame}

/-- One value is reached from another through wrappers, labels, elements, keys, values and fields. -/
def Within (q p : Param) : Prop := ∃ path, plug path q = p

theorem parts_fill (f : Frame) : ∃ before after, ∀ p, parts (f.fill p) = before ++ p :: after := by
  cases f with
  | wrapped | labelled name => exact ⟨[], [], fun _ => rfl⟩
  | item before after => exact ⟨before, after, fun _ => rfl⟩
  | key before v after =>
    exact ⟨before.flatMap sides, v :: after.flatMap sides, fun _ => by simp [Frame.fill, parts, sides]⟩
  | value before k after =>
    exact ⟨before.flatMap sides ++ [k], after.flatMap sides, fun _ => by simp [Frame.fill, parts, sides]⟩
  | field before name after =>
    exact ⟨before.map Prod.snd, after.map Prod.snd, fun _ => by simp [Frame.fill, parts]⟩

theorem mem_parts_iff : q ∈ parts p ↔ ∃ f : Frame, f.fill q = p := by
  constructor
  · intro h
    cases p with
    | wrapped p =>
      rw [parts, List.mem_singleton] at h
      exact ⟨.wrapped, by rw [h]; rfl⟩
    | labelled name p =>
      rw [parts, List.mem_singleton] at h
      exact ⟨.labelled name, by rw [h]; rfl⟩
    | list items =>
      obtain ⟨before, after, rfl⟩ := List.append_of_mem h
      exact ⟨.item before after, rfl⟩
    | map entries =>
      obtain ⟨⟨k, v⟩, he, hq⟩ := List.mem_flatMap.mp h
      obtain ⟨before, after, rfl⟩ := List.append_of_mem he
      rcases mem_sides.mp hq with rfl | rfl
      · exact ⟨.key before v after, rfl⟩
      · exact ⟨.value before k after, rfl⟩
    | record fields =>
      obtain ⟨⟨k, v⟩, he, rfl⟩ := List.mem_map.mp h
      obtain ⟨before, after, rfl⟩ := List.append_of_mem he
      exact ⟨.field before k after, rfl⟩
    | _ => cases h
  · rintro ⟨f, rfl⟩
    obtain ⟨before, after, hf⟩ := parts_fill f
    simp [hf]

theorem Within.of_part (hr : r ∈ parts p) (hq : Within q r) : Within q p := by
  obtain ⟨f, rfl⟩ := mem_parts_iff.mp hr
  obtain ⟨path, rfl⟩ := hq
  exact ⟨f :: path, rfl⟩

theorem mem_walk : q ∈ walk p ↔ Within q p := by
  constructor
  · intro h
    induction p using part_induction with
    | step p ih =>
      rw [walk_eq] at h
      rcases List.mem_cons.mp h with rfl | h
      · exact ⟨[], rfl⟩
      · obtain ⟨r, hr, hq⟩ := List.mem_flatMap.mp h
        exact (ih r hr hq).of_part hr
  · rintro ⟨path, rfl⟩
    induction path with
    | nil =>
      rw [walk_eq]
      exact List.mem_cons_self
    | cons f path ih =>
      rw [walk_eq]
      exact List.mem_cons_of_mem _ (List.mem_flatMap.mpr ⟨_, mem_parts_iff.mpr ⟨f, rfl⟩, ih⟩)

/-! ## Flaws -/

/-- Floats that are no numbers and values that refuse to be written, with what is said about them. -/
inductive Flawed : Param → String → Prop where
  | float32 {x : Floating} (h : x.isFinite = false) :
    Flawed (.float32 x) ("non-finite float parameter " ++ Decimal.plainText x)
  | float64 {x : Floating} (h : x.isFinite = false) :
    Flawed (.float64 x) ("non-finite float parameter " ++ Decimal.plainText x)
  | refused (reason : String) : Flawed (.sealed reason) reason

/-- What is wrong with a value, its parts aside. -/
def ownFlaw? : Param → Option String
  | .float32 x | .float64 x => floatFlaw? x
  | .sealed reason => some reason
  | _ => none

theorem floatFlaw?_eq_some_iff {x : Floating} : floatFlaw? x = some reason ↔
    x.isFinite = false ∧ "non-finite float parameter " ++ Decimal.plainText x = reason := by
  unfold floatFlaw?
  cases x.isFinite <;> simp

theorem flawed_iff : Flawed p reason ↔ ownFlaw? p = some reason := by
  constructor
  · rintro (h | h | reason)
    · exact floatFlaw?_eq_some_iff.mpr ⟨h, rfl⟩
    · exact floatFlaw?_eq_some_iff.mpr ⟨h, rfl⟩
    · rfl
  · intro h
    cases p with
    | float32 x =>
      obtain ⟨hx, rfl⟩ := floatFlaw?_eq_some_iff.mp h
      exact .float32 hx
    | float64 x =>
      obtain ⟨hx, rfl⟩ := floatFlaw?_eq_some_iff.mp h
      exact .float64 hx
    | «sealed» reason =>
      obtain rfl := Option.some.inj h
      exact .refused _
    | _ => cases h

theorem itemFlaw?_eq (items : List Param) : itemFlaw? items = items.findSome? flaw? := by
  induction items with
  | nil => rfl
  | cons p rest ih =>
    rw [itemFlaw?, List.findSome?_cons, ih]
    cases flaw? p <;> rfl

theorem entryFlaw?_eq (entries : List (Param × Param)) :
    entryFlaw? entries = (entries.flatMap sides).findSome? flaw? := by
  induction entries with
  | nil => rfl
  | cons e rest ih =>
    rw [entryFlaw?, List.flatMap_cons, sides, List.cons_append, List.cons_append, List.nil_append,
      List.findSome?_cons, List.findSome?_cons, ih]
    cases flaw? e.1 <;> cases flaw? e.2 <;> rfl

theorem fieldFlaw?_eq (fields : List (String × Param)) :
    fieldFlaw? fields = (fields.map Prod.snd).findSome? flaw? := by
  induction fields with
  | nil => rfl
  | cons m rest ih =>
    rw [fieldFlaw?, List.map_cons, List.findSome?_cons, ih]
    cases flaw? m.2 <;> rfl

theorem flaw?_eq (p : Param) : flaw? p = (ownFlaw? p).or ((parts p).findSome? flaw?) := by
  have hone : ∀ q : Param, flaw? q = [q].findSome? flaw? := by
    intro q
    rw [List.findSome?_cons]
    cases flaw? q <;> rfl
  cases p with
  | wrapped q | labelled name q => exact hone q
  | list items => exact itemFlaw?_eq items
  | map entries => exact entryFlaw?_eq entries
  | record fields => exact fieldFlaw?_eq fields
  | float32 x | float64 x => exact Option.or_none.symm
  | _ => rfl

/-- The flaw of a value is the first one of all that is inside. -/
theorem flaw?_eq_walk (p : Param) : flaw? p = (walk p).findSome? ownFlaw? := by
  induction p using part_induction with
  | step p ih =>
    rw [flaw?_eq, walk_eq, List.findSome?_cons, findSome?_flatMap ih]
    cases ownFlaw? p <;> rfl

theorem ownFlaw?_eq_none_iff : ownFlaw? p = none ↔ ∀ reason, ¬ Flawed p reason := by
  rw [Option.eq_none_iff_forall_ne_some]
  exact forall_congr' fun _ => not_congr flawed_iff.symm

theorem flaw?_eq_none_iff : flaw? p = none ↔ ∀ q, Within q p → ∀ reason, ¬ Flawed q reason := by
  rw [flaw?_eq_walk, List.findSome?_eq_none_iff]
  exact forall_congr' fun q => imp_congr mem_walk ownFlaw?_eq_none_iff

theorem exists_flawed (h : flaw? p = some reason) : ∃ q, Within q p ∧ Flawed q reason := by
  rw [flaw?_eq_walk] at h
  obtain ⟨q, hq, hflaw⟩ := List.exists_of_findSome?_eq_some h
  exact ⟨q, mem_walk.mp hq, flawed_iff.mpr hflaw⟩

theorem flaw?_plug (h : flaw? (plug path q) = none) (hr : flaw? r = none) : flaw? (plug path r) = none := by
  induction path with
  | nil => exact hr
  | cons f path ih =>
    obtain ⟨before, after, hf⟩ := parts_fill f
    have hown : ∀ p, ownFlaw? (f.fill p) = none := by cases f <;> exact fun _ => rfl
    have hflaw : ∀ p, flaw? (f.fill p) = none ↔
        before.findSome? flaw? = none ∧ flaw? p = none ∧ after.findSome? flaw? = none := by
      intro p
      rw [flaw?_eq, hown, hf]
      simp
    obtain ⟨hbefore, hq, hafter⟩ := (hflaw _).mp h
    exact (hflaw _).mpr ⟨hbefore, ih hq, hafter⟩

/-! ## Keys -/

/-- What can name a member of a JSON object: texts, and what is written as one word. -/
inductive Keyable : Param → Prop where
  | text (s : String) : Keyable (.text s)
  | label (name : String) : Keyable (.label name)
  | char (c : Char) : Keyable (.char c)
  | bool (b : Bool) : Keyable (.bool b)
  | integer (i : Int) : Keyable (.integer i)
  | float32 (x : Floating) : Keyable (.float32 x)
  | float64 (x : Floating) : Keyable (.float64 x)
  | wrapped {p : Param} (h : Keyable p) : Keyable (.wrapped p)

theorem keyChars_of_keyable (h : Keyable p) : ∃ cs, keyChars p = .ok cs := by
  induction h with
  | wrapped h ih => exact ih
  | _ => exact ⟨_, rfl⟩

theorem keyChars_of_not_keyable (h : ¬ Keyable p) : keyChars p = .error keyReason := by
  induction p using part_induction with
  | step p ih =>
    cases p with
    | wrapped q => exact ih q (List.mem_singleton_self q) fun hq => h (.wrapped hq)
    | text s => exact absurd (.text s) h
    | label name => exact absurd (.label name) h
    | char c => exact absurd (.char c) h
    | bool b => exact absurd (.bool b) h
    | integer i => exact absurd (.integer i) h
    | float32 x => exact absurd (.float32 x) h
    | float64 x => exact absurd (.float64 x) h
    | _ => rfl

theorem keyable_of_keyChars (h : keyChars p = .ok cs) : Keyable p := by
  by_contra hp
  rw [keyChars_of_not_keyable hp] at h
  cases h

theorem chars_of_keyable (h : Keyable p) : ∃ cs, chars p = .ok cs := by
  induction h with
  | wrapped h ih =>
    obtain ⟨cs, hcs⟩ := ih
    exact ⟨cs, by rw [chars, hcs]⟩
  | _ => exact ⟨_, rfl⟩

/-! ## Texts of containers -/

def entryText (e : Param × Param) : Except String (List Char) := do
  let key ← keyChars e.1
  let value ← chars e.2
  .ok (key ++ ':' :: value)

def fieldText (m : String × Param) : Except String (List Char) := do
  let value ← chars m.2
  .ok (Json.quote m.1 ++ ':' :: value)

theorem itemChars_eq (items : List Param) : itemChars items = items.mapM chars := by
  induction items with
  | nil => rfl
  | cons p rest ih =>
    rw [itemChars, List.mapM_cons, ih]
    rfl

theorem entryChars_eq (entries : List (Param × Param)) : entryChars entries = entries.mapM entryText := by
  induction entries with
  | nil => rfl
  | cons e rest ih =>
    rw [entryChars, List.mapM_cons, ih, entryText]
    cases keyChars e.1 <;> cases chars e.2 <;> rfl

theorem fieldChars_eq (fields : List (String × Param)) : fieldChars fields = fields.mapM fieldText := by
  induction fields with
  | nil => rfl
  | cons m rest ih =>
    rw [fieldChars, List.mapM_cons, ih, fieldText]
    cases chars m.2 <;> rfl

theorem chars_list (items : List Param) :
    chars (.list items) = (items.mapM chars >>= fun parts => .ok (bracketed parts)) := by
  rw [chars, itemChars_eq]

theorem chars_map (entries : List (Param × Param)) :
    chars (.map entries) = (entries.mapM entryText >>= fun parts => .ok (braced parts)) := by
  rw [chars, entryChars_eq]

theorem chars_record (fields : List (String × Param)) :
    chars (.record fields) = (fields.mapM fieldText >>= fun parts => .ok (braced parts)) := by
  rw [chars, fieldChars_eq]

theorem separated_eq (parts : List (List Char)) : separated parts = Text.joinChars [','] parts := by
  induction parts with
  | nil => rfl
  | cons p rest ih =>
    cases rest with
    | nil => rfl
    | cons q rest => simp [separated, Text.joinChars, ih]

theorem separated_place (us vs : List (List Char)) : ∃ a b, ∀ t, separated (us ++ t :: vs) = a ++ t ++ b := by
  induction us with
  | nil =>
    cases vs with
    | nil => exact ⟨[], [], fun t => (List.append_nil t).symm⟩
    | cons v vs => exact ⟨[], ',' :: separated (v :: vs), fun _ => rfl⟩
  | cons u us ih =>
    obtain ⟨a, b, hplace⟩ := ih
    have hcons : ∀ t, separated (u :: (us ++ t :: vs)) = u ++ ',' :: separated (us ++ t :: vs) := by
      intro t
      cases us <;> rfl
    exact ⟨u ++ ',' :: a, b, fun t => by rw [List.cons_append, hcons, hplace]; simp⟩

section

variable {α : Type} {f : α → Except String (List Char)} {x : α} {xs before after : List α} {left right : Char}
  (write : List (List Char) → List Char)

/-- A member of a container is written in its place, whatever the others are. -/
theorem container_place (hwrite : ∀ parts, write parts = left :: separated parts ++ [right])
    (h : ((before ++ x :: after).mapM f >>= fun parts => .ok (write parts)) = .ok cs) :
    (∃ t, f x = .ok t) ∧ ∃ a b, ∀ z t, f z = .ok t →
      ((before ++ z :: after).mapM f >>= fun parts => .ok (write parts)) = .ok (a ++ t ++ b) := by
  obtain ⟨ys, hys, -⟩ := bind_ok h
  obtain ⟨hx, us, vs, hplace⟩ := mapM_place hys
  obtain ⟨a, b, hsep⟩ := separated_place us vs
  refine ⟨hx, left :: a, b ++ [right], fun z t hz => ?_⟩
  rw [hplace z t hz]
  exact congrArg Except.ok (by simp [hwrite, hsep])

theorem container_result {bad : Prop} (h : ∀ x ∈ xs, (∃ t, f x = .ok t) ∨ (f x = .error reason ∧ bad)) :
    (∃ cs, (xs.mapM f >>= fun parts => .ok (write parts)) = .ok cs) ∨
      ((xs.mapM f >>= fun parts => .ok (write parts)) = .error reason ∧ bad) := by
  rcases mapM_result h with ⟨ys, hys⟩ | ⟨hys, hbad⟩
  · exact .inl ⟨_, by rw [hys]; rfl⟩
  · exact .inr ⟨by rw [hys]; rfl, hbad⟩

end

/-- How a value is written inside a frame: most are written in full, a key as a name. -/
def Frame.text : Frame → Param → Except String (List Char)
  | .key .. => keyChars
  | _ => chars

/-- A value is written in its place, whatever stands around it. -/
theorem chars_fill (h : chars (f.fill q) = .ok cs) : (∃ t, f.text q = .ok t) ∧
    ∃ a b, ∀ r t, f.text r = .ok t → chars (f.fill r) = .ok (a ++ t ++ b) := by
  cases f with
  | wrapped =>
    refine ⟨⟨cs, h⟩, [], [], fun r t hr => ?_⟩
    rw [List.nil_append, List.append_nil]
    exact hr
  | labelled name =>
    obtain ⟨t, ht, -⟩ := bind_ok h
    refine ⟨⟨t, ht⟩, '\x7b' :: Json.quote name ++ [':'], ['\x7d'], fun r t hr => ?_⟩
    have hr : chars r = .ok t := hr
    rw [Frame.fill, chars, hr]
    exact congrArg Except.ok (by simp [braced, separated])
  | item before after =>
    rw [Frame.fill, chars_list] at h
    obtain ⟨hq, a, b, hplace⟩ := container_place bracketed (fun _ => rfl) h
    exact ⟨hq, a, b, fun r t hr => by rw [Frame.fill, chars_list, hplace r t hr]⟩
  | key before v after =>
    rw [Frame.fill, chars_map] at h
    obtain ⟨⟨t, ht⟩, a, b, hplace⟩ := container_place braced (fun _ => rfl) h
    obtain ⟨k, hk, ht⟩ := bind_ok ht
    obtain ⟨w, hw, -⟩ := bind_ok ht
    refine ⟨⟨k, hk⟩, a, ':' :: w ++ b, fun r t hr => ?_⟩
    have hr : keyChars r = .ok t := hr
    have hentry : entryText (r, v) = .ok (t ++ ':' :: w) := by
      rw [entryText, hr, hw]
      rfl
    rw [Frame.fill, chars_map, hplace _ _ hentry]
    simp
  | value before k after =>
    rw [Frame.fill, chars_map] at h
    obtain ⟨⟨t, ht⟩, a, b, hplace⟩ := container_place braced (fun _ => rfl) h
    obtain ⟨name, hk, ht⟩ := bind_ok ht
    obtain ⟨w, hw, -⟩ := bind_ok ht
    refine ⟨⟨w, hw⟩, a ++ name ++ [':'], b, fun r t hr => ?_⟩
    have hr : chars r = .ok t := hr
    have hentry : entryText (k, r) = .ok (name ++ ':' :: t) := by
      rw [entryText, hk, hr]
      rfl
    rw [Frame.fill, chars_map, hplace _ _ hentry]
    simp
  | field before name after =>
    rw [Frame.fill, chars_record] at h
    obtain ⟨⟨t, ht⟩, a, b, hplace⟩ := container_place braced (fun _ => rfl) h
    obtain ⟨w, hw, -⟩ := bind_ok ht
    refine ⟨⟨w, hw⟩, a ++ Json.quote name ++ [':'], b, fun r t hr => ?_⟩
    have hr : chars r = .ok t := hr
    have hfield : fieldText (name, r) = .ok (Json.quote name ++ ':' :: t) := by
      rw [fieldText, hr]
      rfl
    rw [Frame.fill, chars_record, hplace _ _ hfield]
    simp

theorem exists_chars_of_text {t : List Char} (h : f.text q = .ok t) : ∃ ds, chars q = .ok ds := by
  cases f with
  | key before v after => exact chars_of_keyable (keyable_of_keyChars h)
  | _ => exact ⟨t, h⟩

/-- Whatever is inside a value that is written is written. -/
theorem chars_of_within (hq : Within q p) (h : chars p = .ok cs) : ∃ ds, chars q = .ok ds := by
  obtain ⟨path, rfl⟩ := hq
  induction path generalizing cs with
  | nil => exact ⟨cs, h⟩
  | cons f path ih =>
    obtain ⟨⟨t, ht⟩, -⟩ := chars_fill h
    obtain ⟨ds, hds⟩ := exists_chars_of_text ht
    exact ih hds

/-- The keys of a map that is written are texts. -/
theorem keyable_of_chars {entries : List (Param × Param)} (h : chars (.map entries) = .ok cs) :
    ∀ e ∈ entries, Keyable e.1 := by
  intro ⟨k, v⟩ he
  obtain ⟨before, after, rfl⟩ := List.append_of_mem he
  obtain ⟨⟨t, ht⟩, -⟩ := chars_fill (f := .key before v after) h
  exact keyable_of_keyChars ht

/-! ## Values without a text -/

/-- Some map inside has a key that is no text. -/
def Misnamed (p : Param) : Prop := ∃ entries, Within (.map entries) p ∧ ∃ e ∈ entries, ¬ Keyable e.1

theorem Misnamed.of_part (hr : r ∈ parts p) (h : Misnamed r) : Misnamed p := by
  obtain ⟨entries, hmap, hkey⟩ := h
  exact ⟨entries, hmap.of_part hr, hkey⟩

theorem flaw?_part (h : flaw? p = none) (hq : q ∈ parts p) : flaw? q = none := by
  rw [flaw?_eq, Option.or_eq_none_iff] at h
  exact List.findSome?_eq_none_iff.mp h.2 q hq

/-- A value without a flaw is written, unless a map inside has a key that is no text. -/
theorem chars_result (h : flaw? p = none) :
    (∃ cs, chars p = .ok cs) ∨ (chars p = .error keyReason ∧ Misnamed p) := by
  induction p using part_induction with
  | step p ih =>
    -- A map inside a part is inside the whole, so every container below can pass its part's reason on.
    have hpart : ∀ q ∈ parts p, (∃ cs, chars q = .ok cs) ∨ (chars q = .error keyReason ∧ Misnamed p) := by
      intro q hq
      exact (ih q hq (flaw?_part h hq)).imp_right fun ⟨hchars, hbad⟩ => ⟨hchars, hbad.of_part hq⟩
    cases p with
    | wrapped q => exact hpart q (List.mem_singleton_self q)
    | labelled name q =>
      rcases hpart q (List.mem_singleton_self q) with ⟨cs, hcs⟩ | ⟨hcs, hbad⟩
      · exact .inl ⟨_, by rw [chars, hcs]; rfl⟩
      · exact .inr ⟨by rw [chars, hcs]; rfl, hbad⟩
    | list items =>
      rw [chars_list]
      exact container_result bracketed hpart
    | map entries =>
      rw [chars_map]
      refine container_result braced fun e he => ?_
      by_cases hkey : Keyable e.1
      · obtain ⟨k, hk⟩ := keyChars_of_keyable hkey
        rcases hpart e.2 (List.mem_flatMap.mpr ⟨e, he, mem_sides.mpr (.inr rfl)⟩) with ⟨w, hw⟩ | ⟨hw, hbad⟩
        · exact .inl ⟨_, by rw [entryText, hk, hw]; rfl⟩
        · exact .inr ⟨by rw [entryText, hk, hw]; rfl, hbad⟩
      · exact .inr ⟨by rw [entryText, keyChars_of_not_keyable hkey]; rfl, entries, ⟨[], rfl⟩, e, he, hkey⟩
    | record fields =>
      rw [chars_record]
      refine container_result braced fun m hm => ?_
      rcases hpart m.2 (List.mem_map.mpr ⟨m, hm, rfl⟩) with ⟨w, hw⟩ | ⟨hw, hbad⟩
      · exact .inl ⟨_, by rw [fieldText, hw]; rfl⟩
      · exact .inr ⟨by rw [fieldText, hw]; rfl, hbad⟩
    | «sealed» reason => cases h
    | _ => exact .inl ⟨_, rfl⟩

theorem chars_eq_error_iff (h : flaw? p = none) : (chars p = .error keyReason) ↔ Misnamed p := by
  constructor
  · intro hchars
    rcases chars_result h with ⟨cs, hcs⟩ | ⟨-, hbad⟩
    · rw [hchars] at hcs
      cases hcs
    · exact hbad
  · rintro ⟨entries, hmap, e, he, hkey⟩
    rcases chars_result h with ⟨cs, hcs⟩ | ⟨hchars, -⟩
    · obtain ⟨ds, hds⟩ := chars_of_within hmap hcs
      exact absurd (keyable_of_chars hds e he) hkey
    · exact hchars

/-! ## Floats in their place -/

/-- The two kinds of floats, and how their numbers are written. -/
inductive Width : (Floating → Param) → (Floating → List Char) → Prop where
  | narrow : Width .float32 (Json.floatText Json.narrowFloatNotation)
  | wide : Width .float64 (Json.floatText Json.floatNotation)

variable {make : Floating → Param} {text : Floating → List Char} {x y : Floating}

theorem Width.chars_make (h : Width make text) (x : Floating) : chars (make x) = .ok (text x) := by
  cases h <;> rfl

theorem Width.keyChars_make (h : Width make text) (x : Floating) :
    keyChars (make x) = .ok (inQuotes (text x)) := by
  cases h <;> rfl

theorem Width.flaw?_make (h : Width make text) (x : Floating) : flaw? (make x) = floatFlaw? x := by
  cases h <;> rfl

theorem Width.flawed (h : Width make text) (hx : x.isFinite = false) : ∃ reason, Flawed (make x) reason := by
  cases h with
  | narrow => exact ⟨_, .float32 hx⟩
  | wide => exact ⟨_, .float64 hx⟩

theorem Width.text_ne_null (h : Width make text) (hx : x.isFinite = true) : text x ≠ Json.null.chars := by
  cases h <;> exact Json.floatText_ne_null _ hx

/-- A list stays a list whichever float is in the place of one inside it. -/
theorem Width.plug_list {items : List Param} (hw : Width make text) (h : plug path (make x) = .list items)
    (y : Floating) : ∃ others, plug path (make y) = .list others := by
  cases path with
  | nil => cases hw <;> cases h
  | cons f path =>
    cases f with
    | item before after => exact ⟨_, rfl⟩
    | _ => cases h

theorem keyChars_plug_float (hw : Width make text) (h : keyChars (plug path (make x)) = .ok cs) (y : Floating) :
    keyChars (plug path (make y)) = .ok (inQuotes (text y)) := by
  induction path with
  | nil => exact hw.keyChars_make y
  | cons f path ih =>
    cases f with
    | wrapped => exact ih h
    | _ => cases h

/-- In the place of a float stands its number, whichever float it is. -/
theorem chars_plug_float (hw : Width make text) (h : chars (plug path (make x)) = .ok cs) :
    ∃ a b, ∀ y, chars (plug path (make y)) = .ok (a ++ text y ++ b) := by
  induction path generalizing cs with
  | nil => exact ⟨[], [], fun y => by rw [List.nil_append, List.append_nil]; exact hw.chars_make y⟩
  | cons f path ih =>
    obtain ⟨⟨t, ht⟩, a, b, hplace⟩ := chars_fill h
    cases f with
    -- In a key nothing but wrappers can stand around the float.
    | key before v after =>
      refine ⟨a ++ ['"'], '"' :: b, fun y => (hplace _ _ (keyChars_plug_float hw ht y)).trans ?_⟩
      simp [inQuotes]
    | _ =>
      obtain ⟨c, d, hinner⟩ := ih ht
      refine ⟨a ++ c, d ++ b, fun y => (hplace _ _ (hinner y)).trans ?_⟩
      simp

end Param
end TaggedCache
