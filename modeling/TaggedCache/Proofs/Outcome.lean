import Mathlib.Data.List.Basic

/-!
# Values or errors

A computation that gives a value or an error is taken apart step by step (`bind_ok`), checks included
(`ite_error_eq_ok_iff`). Over a list it gives the values of all the elements (`mapM_place`) or the error of one of
them (`mapM_result`).
-/

namespace TaggedCache

variable {ε α β : Type} {f : α → Except ε β} {x : α} {xs before after : List α} {ys : List β}

/-- What goes on from a value had this value. -/
theorem bind_ok {e : Except ε α} {next : α → Except ε β} {b : β} (h : e >>= next = .ok b) :
    ∃ a, e = .ok a ∧ next a = .ok b := by
  cases e with
  | error fault => cases h
  | ok a => exact ⟨a, rfl, h⟩

theorem bind_eq_ok_iff {e : Except ε α} {next : α → Except ε β} {b : β} :
    e >>= next = .ok b ↔ ∃ a, e = .ok a ∧ next a = .ok b := by
  constructor
  · exact bind_ok
  · rintro ⟨a, rfl, h⟩
    exact h

/-- A check was passed when there is a value behind it. -/
theorem ite_error_eq_ok_iff {p : Prop} [Decidable p] {e : ε} {next : α → Except ε β} {rest : Except ε β}
    {b : β} : (if p then Except.error e >>= next else rest) = .ok b ↔ ¬p ∧ rest = .ok b := by
  split
  · next h => simp [bind, Except.bind, h]
  · next h => simp [h]

/-! ## Lists -/

theorem forM_eq_ok_iff {f : α → Except ε Unit} {u : Unit} : xs.forM f = .ok u ↔ ∀ x ∈ xs, f x = .ok () := by
  induction xs with
  | nil => exact ⟨fun _ x hx => absurd hx List.not_mem_nil, fun _ => rfl⟩
  | cons x xs ih =>
    show (f x >>= fun _ => xs.forM f) = _ ↔ _
    rw [bind_eq_ok_iff, List.forall_mem_cons, ← ih]
    exact ⟨fun ⟨_, hx, hxs⟩ => ⟨hx, hxs⟩, fun ⟨hx, hxs⟩ => ⟨_, hx, hxs⟩⟩

theorem mapM_cons_eq_ok (h : (x :: xs).mapM f = .ok ys) :
    ∃ y rest, f x = .ok y ∧ xs.mapM f = .ok rest := by
  rw [List.mapM_cons] at h
  obtain ⟨y, hx, h⟩ := bind_ok h
  obtain ⟨rest, hxs, -⟩ := bind_ok h
  exact ⟨y, rest, hx, hxs⟩

theorem mapM_cons_of_ok {y : β} (hx : f x = .ok y) (hxs : xs.mapM f = .ok ys) :
    (x :: xs).mapM f = .ok (y :: ys) := by
  rw [List.mapM_cons, hx, hxs]
  rfl

/-- What one element of a list gives does not touch what the others give. -/
theorem mapM_place (h : (before ++ x :: after).mapM f = .ok ys) : (∃ y, f x = .ok y) ∧
    ∃ us vs, ∀ z y, f z = .ok y → (before ++ z :: after).mapM f = .ok (us ++ y :: vs) := by
  induction before generalizing ys with
  | nil =>
    obtain ⟨y, vs, hx, hafter⟩ := mapM_cons_eq_ok h
    exact ⟨⟨y, hx⟩, [], vs, fun z y hz => mapM_cons_of_ok hz hafter⟩
  | cons w before ih =>
    obtain ⟨u, rest, hw, hrest⟩ := mapM_cons_eq_ok h
    obtain ⟨hx, us, vs, hplace⟩ := ih hrest
    exact ⟨hx, u :: us, vs, fun z y hz => mapM_cons_of_ok hw (hplace z y hz)⟩

/-- A list is done when every element is, and otherwise fails as one of them does. -/
theorem mapM_result {e : ε} {bad : Prop} (h : ∀ x ∈ xs, (∃ y, f x = .ok y) ∨ (f x = .error e ∧ bad)) :
    (∃ ys, xs.mapM f = .ok ys) ∨ (xs.mapM f = .error e ∧ bad) := by
  induction xs with
  | nil => exact .inl ⟨[], rfl⟩
  | cons x xs ih =>
    rcases h x List.mem_cons_self with ⟨y, hx⟩ | ⟨hx, hbad⟩
    · rcases ih fun z hz => h z (List.mem_cons_of_mem _ hz) with ⟨ys, hxs⟩ | ⟨hxs, hbad⟩
      · exact .inl ⟨_, mapM_cons_of_ok hx hxs⟩
      · refine .inr ⟨?_, hbad⟩
        rw [List.mapM_cons, hx, hxs]
        rfl
    · refine .inr ⟨?_, hbad⟩
      rw [List.mapM_cons, hx]
      rfl

end TaggedCache
