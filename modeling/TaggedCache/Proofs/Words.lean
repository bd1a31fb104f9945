import Mathlib.Data.List.DropRight
import TaggedCache.Text.Words

/-!
# White space in texts

The words of a text are what is left of it when it is split at white space (`words_eq`), and parts without the
separator come back from their joined text (`splitOnP_joinChars`). Trimming gives a part of a text that has white
space around it and none at its own ends (`trims_trim`), and there is no other (`Trims.trim_eq`).
-/

namespace TaggedCache
namespace Text

theorem wordsFrom_eq (word cs : List Char) :
    wordsFrom word cs = (List.splitOnPPrepend isBlank cs word).filter (· ≠ []) := by
  induction cs generalizing word with
  | nil =>
    rw [wordsFrom, List.splitOnPPrepend_nil]
    by_cases h : word = [] <;> simp [h]
  | cons c rest ih =>
    rw [wordsFrom, List.splitOnPPrepend_cons_eq_if]
    split
    · have hrest := ih []
      rw [← List.splitOnP_eq_splitOnPPrepend] at hrest
      rw [hrest]
      by_cases h : word = [] <;> simp [h]
    · exact ih (c :: word)

/-- The words of a text are its parts between white space that are not empty. -/
theorem words_eq (cs : List Char) : words cs = (cs.splitOnP isBlank).filter (· ≠ []) := wordsFrom_eq [] cs

/-! ## Joined texts -/

variable {separator p : List Char} {ps : List (List Char)} {c : Char}

theorem mem_joinChars (h : c ∈ joinChars separator ps) : c ∈ separator ∨ ∃ p ∈ ps, c ∈ p := by
  fun_induction joinChars separator ps with
  | case1 => cases h
  | case2 p => exact .inr ⟨p, List.mem_singleton_self p, h⟩
  | case3 p rest _ ih =>
    rcases List.mem_append.mp h with h | h
    · rcases List.mem_append.mp h with h | h
      · exact .inr ⟨p, List.mem_cons_self, h⟩
      · exact .inl h
    · exact (ih h).imp id fun ⟨q, hq, hc⟩ => ⟨q, List.mem_cons_of_mem p hq, hc⟩

theorem subset_joinChars (h : p ∈ ps) : p ⊆ joinChars separator ps := by
  fun_induction joinChars separator ps with
  | case1 => cases h
  | case2 q => exact List.mem_singleton.mp h ▸ List.Subset.refl _
  | case3 q rest _ ih =>
    rcases List.mem_cons.mp h with rfl | h
    · simp
    · exact fun c hc => List.mem_append_right _ (ih h hc)

/-- No part of a split text has a character at which it was split. -/
theorem not_of_mem_splitOnP {q : Char → Bool} {cs word : List Char} (h : word ∈ cs.splitOnP q) :
    ∀ c ∈ word, q c = false := by
  induction cs generalizing word with
  | nil =>
    rw [List.splitOnP_nil, List.mem_singleton] at h
    simp [h]
  | cons d rest ih =>
    rw [List.splitOnP_cons_eq_if_modifyHead] at h
    split at h
    · rcases List.mem_cons.mp h with rfl | h
      · simp
      · exact ih h
    · next hd =>
      obtain ⟨part, parts, hparts⟩ := List.exists_cons_of_ne_nil (List.splitOnP_ne_nil q rest)
      rw [hparts, List.modifyHead_cons] at h
      rcases List.mem_cons.mp h with rfl | h
      · intro c hc
        rcases List.mem_cons.mp hc with rfl | hc
        · simpa using hd
        · exact ih (hparts ▸ List.mem_cons_self) c hc
      · exact ih (hparts ▸ List.mem_cons_of_mem part h)

/-- Parts come back from their joined text when it is split at a class that holds the separator and no character
of the parts. -/
theorem splitOnP_joinChars {q : Char → Bool} (hc : q c = true) (hne : ps ≠ [])
    (h : ∀ p ∈ ps, ∀ d ∈ p, q d = false) : (joinChars [c] ps).splitOnP q = ps := by
  fun_induction joinChars [c] ps with
  | case1 => exact absurd rfl hne
  | case2 p => exact List.splitOnP_eq_singleton (h p List.mem_cons_self)
  | case3 p rest hrest ih =>
    rw [List.append_assoc, List.singleton_append, List.splitOnP_append_cons _ _ hc,
      List.splitOnP_eq_singleton (h p List.mem_cons_self), ih _ fun p hp => h p (List.mem_cons_of_mem _ hp)]
    · rfl
    · rintro rfl
      exact hrest rfl

/-! ## Trimmed texts -/

/-- The part of a text between the white space at its ends. -/
structure Trims (given kept : List Char) : Prop where
  around : ∃ before after, given = before ++ kept ++ after ∧ ∀ c ∈ before ++ after, isBlank c
  ends : ∀ c, c ∈ kept.head? ∨ c ∈ kept.getLast? → ¬ isBlank c

variable {cs given kept : List Char}

theorem trim_eq (cs : List Char) : trim cs = (cs.dropWhile isBlank).rdropWhile isBlank := rfl

theorem trims_trim (cs : List Char) : Trims cs (trim cs) := by
  have hprefix : trim cs <+: cs.dropWhile isBlank := List.rdropWhile_prefix isBlank _
  constructor
  case around =>
    refine ⟨cs.takeWhile isBlank, (cs.dropWhile isBlank).rtakeWhile isBlank, ?_, fun c hc => ?_⟩
    · rw [List.append_assoc, trim_eq, List.rdropWhile_append_rtakeWhile, List.takeWhile_append_dropWhile]
    · rcases List.mem_append.mp hc with hc | hc
      · exact List.mem_takeWhile_imp hc
      · exact List.mem_rtakeWhile_imp hc
  case ends =>
    rintro c (hc | hc)
    · obtain ⟨rest, hrest⟩ := hprefix
      obtain ⟨kept, hkept⟩ := List.head?_eq_some_iff.mp hc
      have hhead := List.head?_dropWhile_not isBlank cs
      rw [← hrest, hkept] at hhead
      exact Bool.eq_false_iff.mp hhead
    · obtain ⟨hne, rfl⟩ := List.mem_getLast?_eq_getLast hc
      exact List.rdropWhile_last_not isBlank _ hne

theorem Trims.trim_eq (h : Trims given kept) : trim given = kept := by
  obtain ⟨⟨before, after, rfl, hblank⟩, hends⟩ := h
  have hbefore : ∀ c ∈ before, isBlank c := fun c hc => hblank c (List.mem_append_left _ hc)
  have hafter : ∀ c ∈ after.reverse, isBlank c := fun c hc =>
    hblank c (List.mem_append_right _ (List.mem_reverse.mp hc))
  rw [Text.trim_eq, List.append_assoc, List.dropWhile_append_of_pos hbefore]
  cases kept with
  | nil =>
    have hnil : after.dropWhile isBlank = [] :=
      List.dropWhile_eq_nil_iff.mpr fun c hc => hafter c (List.mem_reverse.mpr hc)
    rw [List.nil_append, hnil, List.rdropWhile_nil]
  | cons c kept =>
    have hlast : (c :: kept).rdropWhile isBlank = c :: kept :=
      List.rdropWhile_eq_self_iff.mpr fun hne => hends _ (.inr (List.getLast?_eq_some_getLast hne))
    rw [List.cons_append, List.dropWhile_cons_of_neg (hends c (.inl rfl)), ← List.cons_append, List.rdropWhile,
      List.reverse_append, List.dropWhile_append_of_pos hafter]
    exact hlast

theorem trim_trim (cs : List Char) : trim (trim cs) = trim cs :=
  Trims.trim_eq ⟨⟨[], [], by simp⟩, (trims_trim cs).ends⟩

theorem trim_eq_self (h : ∀ c ∈ cs, isBlank c = false) : trim cs = cs := by
  refine Trims.trim_eq ⟨⟨[], [], by simp⟩, ?_⟩
  rintro c (hc | hc)
  · simp [h c (List.mem_of_mem_head? hc)]
  · simp [h c (List.mem_of_mem_getLast? hc)]

end Text
end TaggedCache
