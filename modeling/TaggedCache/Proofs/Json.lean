import Mathlib.Algebra.Group.Int.Defs
import Mathlib.Algebra.Group.Nat.Defs
import Mathlib.Data.List.Basic
import Mathlib.Data.List.TakeDrop
import Mathlib.Data.List.TakeWhile
import Mathlib.Data.Option.Basic
import TaggedCache.Json.Reader
import TaggedCache.Json.Writer
import TaggedCache.Text.Words

/-!
# Written JSON reads back

`readChars?_chars`: the compact text of a value is read as this value, when all its numbers are integers
of 64 bits and its containers do not lie too deep. The reader is followed from token to token: what it
makes of a text depends on the open containers and on what it expects next (`Follows`).
-/

namespace TaggedCache

/-! ## Digits -/

namespace Numeral

theorem exists_digit {c : Char} (h : (digitValue? c).isSome = true) : ∃ d < 10, c = digit d := by
  unfold digitValue? at h
  split at h
  · next hc =>
    have hlo : 48 ≤ c.toNat := hc.1
    have hhi : c.toNat ≤ 57 := hc.2
    refine ⟨c.toNat - 48, by omega, ?_⟩
    rw [digit, Nat.add_sub_cancel' hlo, Char.ofNat_toNat]
  · cases h

theorem digits_all (n : Nat) : ∀ c ∈ digits n, (digitValue? c).isSome = true := by
  have hdigit : ∀ d < 10, (digitValue? (digit d)).isSome = true := by decide
  induction n using Nat.strongRecOn with
  | ind n ih =>
    rw [digits]
    split
    · next h => simpa using hdigit n h
    · next h =>
      intro c hc
      rcases List.mem_append.mp hc with hc | hc
      · exact ih (n / 10) (by omega) c hc
      · rw [List.mem_singleton.mp hc]
        exact hdigit _ (Nat.mod_lt n (by omega))

theorem head?_digits {n : Nat} (hn : 0 < n) : (digits n).head? ≠ some '0' := by
  have hzero : ∀ d < 10, digit d = '0' → d = 0 := by decide
  induction n using Nat.strongRecOn with
  | ind n ih =>
    rw [digits]
    split
    · next h => exact fun hd => absurd (hzero n h (Option.some.inj hd)) (by omega)
    · next h =>
      rw [List.head?_append_of_ne_nil _ (digits_ne_nil _)]
      exact ih (n / 10) (by omega) (by omega)

theorem length_digits (n : Nat) (h : (digits n).head? = some '0') : (digits n).length = 1 := by
  rcases Nat.eq_zero_or_pos n with rfl | hn
  · rw [digits]
    rfl
  · exact absurd h (head?_digits hn)

theorem le_of_valueFrom? {s n : Nat} {ds : List Char} (h : valueFrom? s ds = some n) : s ≤ n := by
  induction ds generalizing s with
  | nil => exact Nat.le_of_eq (Option.some.inj h)
  | cons c rest ih =>
    unfold valueFrom? at h
    split at h
    · have := ih h
      omega
    · cases h

end Numeral

namespace Json

theorem splitDigits_digits (n : Nat) : splitDigits (Numeral.digits n) = (Numeral.digits n, []) := by
  have h := Numeral.digits_all n
  rw [splitDigits, List.span_eq_takeWhile_dropWhile, List.takeWhile_eq_self_iff.mpr h,
    List.dropWhile_eq_nil_iff.mpr h]

theorem takeDigits_eq {s : Nat} {ds : List Char} {n : Nat} (hv : Numeral.valueFrom? s ds = some n)
    (hn : n ≤ significandLimit) : takeDigits s ds = (n, []) := by
  induction ds generalizing s with
  | nil => simpa [takeDigits, Numeral.valueFrom?] using hv
  | cons c rest ih =>
    cases hd : Numeral.digitValue? c with
    | none => simp [Numeral.valueFrom?, hd] at hv
    | some d =>
      simp only [Numeral.valueFrom?, hd] at hv
      have hle := Numeral.le_of_valueFrom? hv
      simp only [takeDigits, hd, Option.getD_some]
      rw [if_pos (Nat.le_trans hle hn)]
      exact ih hv

theorem numberText?_digits (n : Nat) :
    numberText? (Numeral.digits n) = some ⟨false, Numeral.digits n, none, none⟩ := by
  have hminus : ∀ rest, Numeral.digits n ≠ '-' :: rest := by
    intro rest hd
    have := Numeral.digits_all n '-' (by simp [hd])
    exact absurd this (by decide)
  unfold numberText?
  split
  · next heq => 
    split at heq
    · next hd => exact absurd hd (hminus _)
    · obtain ⟨rfl, rfl⟩ := Prod.mk.inj heq
      rw [splitDigits_digits]
      simp only [guard, ne_eq, Numeral.digits_ne_nil n, not_false_eq_true, true_and]
      rw [if_pos (Numeral.length_digits n)]
      rfl

theorem numberText?_minus (n : Nat) :
    numberText? ('-' :: Numeral.digits n) = some ⟨true, Numeral.digits n, none, none⟩ := by
  simp only [numberText?, splitDigits_digits, guard, ne_eq, Numeral.digits_ne_nil n,
    not_false_eq_true, true_and]
  rw [if_pos (Numeral.length_digits n)]
  rfl

/-- The integers that are written and read as integers. -/
def InRange (i : Int) : Prop := -2 ^ 63 ≤ i ∧ i < 2 ^ 64

theorem readNumber?_ofInt {i : Int} (h : InRange i) :
    readNumber? (Numeral.ofInt i) = some (.integer i) := by
  have ⟨hlo, hhi⟩ := h
  have htake : takeDigits 0 (Numeral.digits i.natAbs) = (i.natAbs, []) :=
    takeDigits_eq (Numeral.valueFrom?_digits _) (by
      show i.natAbs ≤ 2 ^ 64 - 1
      omega)
  unfold Numeral.ofInt readNumber?
  split
  · next hneg =>
    have hfits : 0 < i.natAbs ∧ i.natAbs ≤ Numeral.negatives 64 := by
      refine ⟨by omega, ?_⟩
      show i.natAbs ≤ 2 ^ 63
      omega
    simp only [numberText?_minus, Option.bind_eq_bind, Option.bind_some, NumberText.number?, htake,
      hfits, and_self, ↓reduceIte, Bool.not_true, Bool.false_eq_true]
    congr
    omega
  · next hneg =>
    simp only [numberText?_digits, Option.bind_eq_bind, Option.bind_some, NumberText.number?, htake,
      Bool.not_false, ↓reduceIte]
    congr
    omega

/-! ## Lists -/

theorem itemChars_eq (items : List Json) : itemChars items = Text.joinChars [','] (items.map chars) := by
  induction items with
  | nil => rfl
  | cons v rest ih =>
    cases rest with
    | nil => rfl
    | cons u rest => simp [itemChars, Text.joinChars, ih]

/-- The key of a member, a colon and its value. -/
def pairChars (m : String × Json) : List Char := quote m.1 ++ ':' :: chars m.2

theorem memberChars_eq (members : List (String × Json)) :
    memberChars members = Text.joinChars [','] (members.map pairChars) := by
  induction members with
  | nil => rfl
  | cons m rest ih =>
    cases rest with
    | nil => rfl
    | cons n rest => simp [memberChars, Text.joinChars, pairChars, ih]

/-! ## Texts -/

theorem escaped?_letter {c letter : Char} (h : escapeLetter? c = some letter) :
    escaped? letter = some c ∧ letter ≠ 'u' := by
  unfold escapeLetter? at h
  split at h
  all_goals
    cases h
  all_goals exact ⟨rfl, by decide⟩

theorem readUnicode?_control {c : Char} (h : c.toNat < 0x20) (rest : List Char) :
    readUnicode? ('0' :: '0' :: Bytes.hexDigit (c.toNat / 16) :: Bytes.hexDigit (c.toNat % 16) :: rest) =
      some (c, rest) := by
  have hhex : ∀ d < 16, Bytes.hexValue? (Bytes.hexDigit d) = some d := by decide
  have hzero : Bytes.hexValue? '0' = some 0 := by decide
  have hc : 4096 * 0 + 256 * 0 + 16 * (c.toNat / 16) + c.toNat % 16 = c.toNat := by omega
  simp only [readUnicode?, readHex4?, hzero, hhex _ (show c.toNat / 16 < 16 by omega),
    hhex _ (show c.toNat % 16 < 16 by omega), Option.bind_eq_bind, Option.bind_some, hc]
  rw [if_neg (by omega), if_neg (by omega), Char.ofNat_toNat]

theorem readTextFrom_escapeChar (fuel : Nat) (c : Char) (rest : List Char) :
    readTextFrom (fuel + 1) (escapeChar c ++ rest) =
      (readTextFrom fuel rest).map fun p => (c :: p.1, p.2) := by
  unfold escapeChar
  split
  · next letter hl =>
    have ⟨he, hu⟩ := escaped?_letter hl
    show readTextFrom (fuel + 1) ('\\' :: letter :: rest) = _
    rw [readTextFrom]
    · simp only [he, Option.bind_eq_bind, Option.bind_some]
      cases readTextFrom fuel rest <;> rfl
    · exact hu
  · next hl =>
    split
    · next hc =>
      show readTextFrom (fuel + 1) ('\\' :: 'u' :: '0' :: '0' :: Bytes.hexDigit (c.toNat / 16) ::
        Bytes.hexDigit (c.toNat % 16) :: rest) = _
      rw [readTextFrom, readUnicode?_control hc]
      simp only [Option.bind_eq_bind, Option.bind_some]
      cases readTextFrom fuel rest <;> rfl
    · next hc =>
      have hq : c ≠ '"' := by
        rintro rfl
        cases hl
      have hb : c ≠ '\\' := by
        rintro rfl
        cases hl
      show readTextFrom (fuel + 1) (c :: rest) = _
      rw [readTextFrom]
      · rw [if_neg (by simp [hb, hc])]
        cases readTextFrom fuel rest <;> rfl
      · exact hq
      · exact fun _ h _ => hb h
      · exact fun _ _ h _ => hb h

theorem readTextFrom_quote {fuel : Nat} {cs : List Char} (rest : List Char) (hf : cs.length < fuel) :
    readTextFrom fuel (cs.flatMap escapeChar ++ '"' :: rest) = some (cs, rest) := by
  induction cs generalizing fuel with
  | nil =>
    obtain ⟨fuel, rfl⟩ := Nat.exists_eq_succ_of_ne_zero (Nat.ne_of_gt hf)
    rfl
  | cons c cs ih =>
    obtain ⟨fuel, rfl⟩ := Nat.exists_eq_succ_of_ne_zero (Nat.ne_of_gt (Nat.zero_lt_of_lt hf))
    rw [List.flatMap_cons, List.append_assoc, readTextFrom_escapeChar, ih (Nat.lt_of_succ_lt_succ hf)]
    rfl

/-! ## Tokens -/

theorem tokensFrom_succ {fuel : Nat} {cs : List Char} {ts : List Token}
    (h : tokensFrom fuel cs = some ts) : tokensFrom (fuel + 1) cs = some ts := by
  induction fuel generalizing cs ts with
  | zero =>
    cases cs with
    | nil => exact h
    | cons c rest => cases h
  | succ fuel ih =>
    cases cs with
    | nil => exact h
    | cons c rest =>
      rw [tokensFrom] at h ⊢
      split at h
      · next hb =>
        rw [if_pos hb]
        exact ih h
      · next hb =>
        rw [if_neg hb]
        split at h
        · next hq =>
          obtain ⟨p, hp, hr⟩ := Option.bind_eq_some_iff.mp h
          obtain ⟨ts', ht, he⟩ := Option.bind_eq_some_iff.mp hr
          rw [if_pos hq]
          exact Option.bind_eq_some_iff.mpr ⟨p, hp, Option.bind_eq_some_iff.mpr ⟨ts', ih ht, he⟩⟩
        · next hq =>
          rw [if_neg hq]
          split at h
          · next t hp =>
            obtain ⟨ts', ht, he⟩ := Option.map_eq_some_iff.mp h
            exact Option.map_eq_some_iff.mpr ⟨ts', ih ht, he⟩
          · split at h
            · next hl =>
              obtain ⟨t, hw, hr⟩ := Option.bind_eq_some_iff.mp h
              obtain ⟨ts', ht, he⟩ := Option.bind_eq_some_iff.mp hr
              simp only [hl, ↓reduceIte]
              exact Option.bind_eq_some_iff.mpr ⟨t, hw, Option.bind_eq_some_iff.mpr ⟨ts', ih ht, he⟩⟩
            · next hl =>
              split at h
              · next hn =>
                obtain ⟨n, hw, hr⟩ := Option.bind_eq_some_iff.mp h
                obtain ⟨ts', ht, he⟩ := Option.bind_eq_some_iff.mp hr
                simp only [hl, hn, ↓reduceIte]
                exact Option.bind_eq_some_iff.mpr ⟨n, hw, Option.bind_eq_some_iff.mpr ⟨ts', ih ht, he⟩⟩
              · cases h

/-- More fuel changes nothing. -/
theorem tokensFrom_mono {fuel more : Nat} {cs : List Char} {ts : List Token}
    (h : tokensFrom fuel cs = some ts) (hf : fuel ≤ more) : tokensFrom more cs = some ts := by
  induction hf with
  | refl => exact h
  | step _ ih => exact tokensFrom_succ ih

variable {rest : List Char} {ts : List Token}

theorem length_le_flatMap (cs : List Char) : cs.length ≤ (cs.flatMap escapeChar).length := by
  induction cs with
  | nil => exact Nat.le_refl _
  | cons c cs ih =>
    have hc : 0 < (escapeChar c).length := by
      unfold escapeChar
      split
      · exact Nat.succ_pos _
      · split <;> exact Nat.succ_pos _
    rw [List.flatMap_cons, List.length_append, List.length_cons]
    omega

theorem tokens?_quote (s : String) (h : tokens? rest = some ts) :
    tokens? (quote s ++ rest) = some (.text s :: ts) := by
  have happ : quote s ++ rest = '"' :: (s.toList.flatMap escapeChar ++ '"' :: rest) := by
    simp [quote]
  have hlen : s.toList.length + rest.length < (s.toList.flatMap escapeChar ++ '"' :: rest).length := by
    have := length_le_flatMap s.toList
    rw [List.length_append, List.length_cons]
    omega
  unfold tokens? at h ⊢
  rw [happ, List.length_cons, tokensFrom, if_neg (by decide), if_pos rfl,
    readTextFrom_quote rest (by omega)]
  show (tokensFrom _ rest).bind _ = _
  rw [tokensFrom_mono h (by omega), Option.bind_some, String.ofList_toList]

theorem tokens?_punctuation {c : Char} {t : Token} (hc : punctuation? c = some t)
    (h : tokens? rest = some ts) : tokens? (c :: rest) = some (t :: ts) := by
  have hplain : isBlank c = false ∧ c ≠ '"' := by
    unfold punctuation? at hc
    split at hc
    all_goals simp [isBlank] at hc ⊢
  unfold tokens? at h ⊢
  rw [List.length_cons, tokensFrom]
  simp [hplain, hc, h]

/-- No number and no name goes on here. -/
def Ends (cs : List Char) : Prop := ∀ c ∈ cs.head?, c.isLower = false ∧ isNumberChar c = false

theorem takeWhile_ends {p : Char → Bool} {word : List Char} (hw : ∀ c ∈ word, p c = true)
    (hr : ∀ c ∈ rest.head?, p c = false) :
    (word ++ rest).takeWhile p = word ∧ (word ++ rest).dropWhile p = rest := by
  rw [List.takeWhile_append_of_pos hw, List.dropWhile_append_of_pos hw]
  cases rest with
  | nil => simp
  | cons c rest => simp [hr c rfl]

theorem word?_lower {c : Char} {word : List Char} {t : Token} (h : word? (c :: word) = some t) :
    (isBlank c = false ∧ c ≠ '"' ∧ punctuation? c = none) ∧ ∀ d ∈ c :: word, d.isLower = true := by
  unfold word? at h
  split_ifs at h with hw hw hw
  all_goals
    obtain ⟨rfl, rfl⟩ := List.cons.inj hw
    refine ⟨by decide, ?_⟩
    rw [← List.all_eq_true]
    rfl

theorem tokens?_word {c : Char} {word : List Char} {t : Token} (hc : word? (c :: word) = some t)
    (hr : Ends rest) (h : tokens? rest = some ts) : tokens? (c :: word ++ rest) = some (t :: ts) := by
  have ⟨⟨hb, hq, hp⟩, hw⟩ := word?_lower hc
  have ⟨htake, hdrop⟩ := takeWhile_ends (fun d hd => hw d (List.mem_cons_of_mem c hd)) fun d hd =>
    (hr d hd).1
  unfold tokens? at h ⊢
  rw [List.cons_append, List.length_cons, tokensFrom, if_neg (by simp [hb]), if_neg hq, hp]
  simp only [hw c List.mem_cons_self, ↓reduceIte, htake, hdrop, hc]
  rw [tokensFrom_mono h (by simp)]
  rfl

/-- The first character of an integer. -/
def Leads (c : Char) : Prop := c = '-' ∨ (Numeral.digitValue? c).isSome = true

theorem Leads.plain {c : Char} (h : Leads c) :
    isBlank c = false ∧ c ≠ '"' ∧ punctuation? c = none ∧ c.isLower = false ∧ isNumberChar c = true := by
  have hdigits : ∀ d < 10, isBlank (Numeral.digit d) = false ∧ Numeral.digit d ≠ '"' ∧
      punctuation? (Numeral.digit d) = none ∧ (Numeral.digit d).isLower = false ∧
      isNumberChar (Numeral.digit d) = true := by decide
  rcases h with rfl | h
  · decide
  · obtain ⟨d, hd, rfl⟩ := Numeral.exists_digit h
    exact hdigits d hd

theorem ofInt_leads (i : Int) : ∃ c word, Numeral.ofInt i = c :: word ∧ Leads c ∧
    ∀ d ∈ word, isNumberChar d = true := by
  have hall := Numeral.digits_all i.natAbs
  unfold Numeral.ofInt
  split
  · exact ⟨'-', _, rfl, .inl rfl, fun d hd => (Leads.plain (.inr (hall d hd))).2.2.2.2⟩
  · obtain ⟨c, word, hc⟩ := List.exists_cons_of_ne_nil (Numeral.digits_ne_nil i.natAbs)
    rw [hc] at hall ⊢
    exact ⟨c, word, rfl, .inr (hall c List.mem_cons_self), fun d hd =>
      (Leads.plain (.inr (hall d (List.mem_cons_of_mem c hd)))).2.2.2.2⟩

theorem tokens?_ofInt {i : Int} (hi : InRange i) (hr : Ends rest) (h : tokens? rest = some ts) :
    tokens? (Numeral.ofInt i ++ rest) = some (.number (.integer i) :: ts) := by
  have hread := readNumber?_ofInt hi
  obtain ⟨c, word, he, hc, hw⟩ := ofInt_leads i
  have ⟨hb, hq, hp, hl, hn⟩ := hc.plain
  have ⟨htake, hdrop⟩ := takeWhile_ends hw fun d hd => (hr d hd).2
  rw [he] at hread ⊢
  unfold tokens? at h ⊢
  rw [List.cons_append, List.length_cons, tokensFrom, if_neg (by simp [hb]), if_neg hq, hp]
  simp only [hl, Bool.false_eq_true, hn, ↓reduceIte, htake, hdrop, hread]
  rw [tokensFrom_mono h (by simp)]
  rfl

/-! ## Values -/

/-- The numbers are integers of 64 bits, and at most `depth` containers lie inside one another. -/
inductive Fits : Nat → Json → Prop where
  | null {depth : Nat} : Fits depth .null
  | bool {depth : Nat} (b : Bool) : Fits depth (.bool b)
  | int {depth : Nat} {i : Int} (h : InRange i) : Fits depth (.int i)
  | text {depth : Nat} (s : String) : Fits depth (.text s)
  | array {depth : Nat} {items : List Json} (h : ∀ v ∈ items, Fits depth v) :
      Fits (depth + 1) (.array items)
  | object {depth : Nat} {members : List (String × Json)} (h : ∀ m ∈ members, Fits depth m.2) :
      Fits (depth + 1) (.object members)

theorem Fits.texts {depth : Nat} (xs : List String) : Fits (depth + 1) (Json.texts xs) := by
  refine .array fun v hv => ?_
  obtain ⟨s, -, rfl⟩ := List.mem_map.mp hv
  exact .text s

/-- With these containers open and this expected next, the characters are read as the value. -/
def Follows (limit : Nat) (stack : List Frame) (expected : Expected) (cs : List Char) (v : Json) :
    Prop :=
  ∃ ts, tokens? cs = some ts ∧ run limit stack expected ts = some v

/-- A value may come next. -/
def Starts (e : Expected) : Prop := e = .value ∨ e = .valueOrEnd

/-- The reader passes over the text of a value and hands it to the innermost open container. -/
def Passes (depth : Nat) (v : Json) : Prop :=
  ∀ ⦃limit : Nat⦄ ⦃stack stack' : List Frame⦄ ⦃e e' : Expected⦄ ⦃rest : List Char⦄ ⦃w : Json⦄,
    Starts e → stack.length + depth ≤ limit → Ends rest →
    complete v stack = some (stack', e') → Follows limit stack' e' rest w →
    Follows limit stack e (chars v ++ rest) w

variable {limit depth : Nat} {stack stack' : List Frame} {e e' : Expected} {cs : List Char}
  {t : Token} {v w : Json}

theorem Follows.token (h : Follows limit stack' e' rest w)
    (ht : ∀ ts, tokens? rest = some ts → tokens? cs = some (t :: ts))
    (hs : step limit stack e t = some (stack', e')) : Follows limit stack e cs w := by
  obtain ⟨ts, htokens, hrun⟩ := h
  refine ⟨t :: ts, ht ts htokens, ?_⟩
  rw [run, hs]
  exact hrun

theorem Follows.punctuation {c : Char} (h : Follows limit stack' e' rest w)
    (hc : punctuation? c = some t) (hs : step limit stack e t = some (stack', e')) :
    Follows limit stack e (c :: rest) w :=
  h.token (fun _ hts => tokens?_punctuation hc hts) hs

theorem step_starts (he : Starts e) (ht : t ≠ .closeArray) :
    step limit stack e t = beginValue limit stack t := by
  rcases he with rfl | rfl
  · rfl
  · unfold step
    split <;> simp_all

theorem Follows.start (t : Token) (h : Follows limit stack' e' rest w) (he : Starts e)
    (ht : ∀ ts, tokens? rest = some ts → tokens? cs = some (t :: ts))
    (hb : beginValue limit stack t = some (stack', e')) (hne : t ≠ .closeArray) :
    Follows limit stack e cs w :=
  h.token ht ((step_starts he hne).trans hb)

theorem ends_punctuation {c : Char} (hc : punctuation? c = some t) : Ends (c :: cs) := by
  unfold punctuation? at hc
  intro d hd
  obtain rfl := Option.some.inj hd
  split at hc
  all_goals first | decide | cases hc

theorem follows_items {items done : List Json} (h : ∀ v ∈ items, Passes depth v) (hne : items ≠ [])
    (he : Starts e) (hl : stack.length + 1 + depth ≤ limit)
    (hc : complete (.array (done.reverse ++ items)) stack = some (stack', e'))
    (hrest : Follows limit stack' e' rest w) :
    Follows limit (.items done :: stack) e (itemChars items ++ ']' :: rest) w := by
  induction items generalizing done e with
  | nil => exact absurd rfl hne
  | cons v more ih =>
    have hv := h v List.mem_cons_self
    cases more with
    | nil =>
      have hclose : Follows limit (.items (v :: done) :: stack) .separator (']' :: rest) w := by
        refine hrest.punctuation rfl ?_
        rw [← hc, ← List.reverse_cons]
        rfl
      exact hv he hl (ends_punctuation rfl) rfl hclose
    | cons u more =>
      have htail := ih (fun v hm => h v (List.mem_cons_of_mem _ hm)) (List.cons_ne_nil _ _) (.inl rfl)
        (by rw [← hc, List.reverse_cons, List.append_assoc]; rfl)
      rw [itemChars, List.append_assoc]
      · exact hv he hl (ends_punctuation rfl) rfl (htail.punctuation rfl rfl)
      · exact List.cons_ne_nil _ _

theorem follows_members {members done : List (String × Json)} (h : ∀ m ∈ members, Passes depth m.2)
    (hne : members ≠ []) (he : e = .key ∨ e = .keyOrEnd) (hl : stack.length + 1 + depth ≤ limit)
    (hc : complete (.object (done.reverse ++ members)) stack = some (stack', e'))
    (hrest : Follows limit stack' e' rest w) :
    Follows limit (.members done :: stack) e (memberChars members ++ '\x7d' :: rest) w := by
  induction members generalizing done e with
  | nil => exact absurd rfl hne
  | cons m more ih =>
    obtain ⟨k, v⟩ := m
    have hv : Passes depth v := h (k, v) List.mem_cons_self
    -- What comes behind the key and the colon decides; both are read alike in front of it.
    have hkey : ∀ cs, Follows limit (.member done k :: stack) .value cs w →
        Follows limit (.members done :: stack) e (quote k ++ ':' :: cs) w := by
      intro cs hcs
      refine Follows.token (t := .text k) (Follows.punctuation hcs (e := .colon) rfl rfl)
        (fun _ => tokens?_quote k) ?_
      rcases he with rfl | rfl <;> rfl
    cases more with
    | nil =>
      have hclose : Follows limit (.members ((k, v) :: done) :: stack) .separator ('\x7d' :: rest) w := by
        refine hrest.punctuation rfl ?_
        rw [← hc, ← List.reverse_cons]
        rfl
      have := hkey _ (hv (.inl rfl) hl (ends_punctuation rfl) rfl hclose)
      simpa [memberChars] using this
    | cons m' more =>
      have htail := ih (fun v hm => h v (List.mem_cons_of_mem _ hm)) (List.cons_ne_nil _ _) (.inl rfl)
        (by rw [← hc, List.reverse_cons, List.append_assoc]; rfl)
      have := hkey _ (hv (.inl rfl) hl (ends_punctuation rfl) rfl
        (htail.punctuation (c := ',') rfl rfl))
      simpa [memberChars] using this

theorem Fits.passes (h : Fits depth v) : Passes depth v := by
  induction h with
  | null =>
    intro limit stack stack' e e' rest w he hl hr hc hrest
    exact hrest.start .null he (fun _ => tokens?_word rfl hr) hc nofun
  | bool b =>
    intro limit stack stack' e e' rest w he hl hr hc hrest
    refine hrest.start (.bool b) he ?_ hc nofun
    cases b
    · exact fun _ => tokens?_word rfl hr
    · exact fun _ => tokens?_word rfl hr
  | int hi =>
    intro limit stack stack' e e' rest w he hl hr hc hrest
    exact hrest.start (.number (.integer _)) he (fun _ => tokens?_ofInt hi hr) hc nofun
  | text s =>
    intro limit stack stack' e e' rest w he hl hr hc hrest
    exact hrest.start (.text s) he (fun _ => tokens?_quote s) hc nofun
  | @array depth items h ih =>
    intro limit stack stack' e e' rest w he hl hr hc hrest
    have hopen : Follows limit (.items [] :: stack) .valueOrEnd (itemChars items ++ ']' :: rest) w := by
      cases items with
      | nil => exact hrest.punctuation rfl hc
      | cons u more => exact follows_items ih (List.cons_ne_nil _ _) (.inr rfl) (by omega) hc hrest
    rw [chars, List.append_assoc, List.singleton_append]
    exact hopen.start .openArray he (fun _ => tokens?_punctuation rfl) (if_pos (by omega)) nofun
  | @object depth members h ih =>
    intro limit stack stack' e e' rest w he hl hr hc hrest
    have hopen : Follows limit (.members [] :: stack) .keyOrEnd
        (memberChars members ++ '\x7d' :: rest) w := by
      cases members with
      | nil => exact hrest.punctuation rfl hc
      | cons m more => exact follows_members ih (List.cons_ne_nil _ _) (.inr rfl) (by omega) hc hrest
    rw [chars, List.append_assoc, List.singleton_append]
    exact hopen.start .openObject he (fun _ => tokens?_punctuation rfl) (if_pos (by omega)) nofun

theorem readChars?_chars (h : Fits depthLimit v) : readChars? v.chars = some v := by
  have hend : Follows depthLimit [] (.nothing v) [] v := ⟨[], rfl, rfl⟩
  have hall : Follows depthLimit [] .value (v.chars ++ []) v :=
    h.passes (.inl rfl) (Nat.zero_add _).le (by simp [Ends]) rfl hend
  obtain ⟨ts, htokens, hrun⟩ := hall
  rw [List.append_nil] at htokens
  simpa [readChars?, htokens] using hrun

theorem readBytes?_bytes (h : Fits depthLimit v) : readBytes? v.bytes = some v := by
  rw [readBytes?, bytes, Bytes.toText?_ofText]
  simpa [read?, compact] using readChars?_chars h

end Json
end TaggedCache
