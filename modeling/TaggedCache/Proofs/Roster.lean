import TaggedCache.Proofs.Outcome
import TaggedCache.Roster
import TaggedCache.Table

/-!
# Values beside names

A roster has the values of its list (`get?_eq_some_iff`). What is made of one value after another comes to stand
beside the same names, once nothing fails (`mapM_ok`), and nothing fails exactly when none of it does by itself
(`mapM_ok_iff`).
-/

namespace TaggedCache
namespace Roster

variable {α β ε : Type} {r : Roster α} {name : String} {value : α}

theorem find_eq (name : String) (ps : List (String × α)) : find name ps = Table.find name ps := by
  induction ps with
  | nil => rfl
  | cons p rest ih => rw [find, Table.find, ih]

theorem get?_eq_some_iff : r.get? name = some value ↔ (name, value) ∈ r.toList := by
  have hn : (r.toList.map Prod.fst).Nodup := by
    refine r.ascending.imp fun {a b} hlt he => ?_
    subst he
    exact String.lt_irrefl a hlt
  rw [get?, find_eq, Table.find_eq_some_iff hn]

theorem mem_names_iff : name ∈ r.names ↔ ∃ value, r.get? name = some value := by
  simp [names, get?_eq_some_iff]

theorem contains_iff : r.contains name ↔ name ∈ r.names := by
  rw [contains, Option.isSome_iff_exists, mem_names_iff]

/-! ## One value after another -/

theorem insertList_last {ps : List (String × α)} (h : ∀ p ∈ ps, p.1 < name) :
    insertList name value ps = ps ++ [(name, value)] := by
  induction ps with
  | nil => rfl
  | cons p rest ih =>
    have hlt := h p List.mem_cons_self
    rw [insertList, if_neg fun hgt => String.lt_irrefl _ (String.lt_trans hlt hgt),
      if_neg fun he => String.lt_irrefl _ (he ▸ hlt), ih fun q hq => h q (List.mem_cons_of_mem p hq)]
    rfl

/-- What is made of the rest of a list comes to stand behind what has been made before. -/
theorem foldlM_insert {f : String → α → Except ε β} {ps : List (String × α)} {made : Roster β}
    (hascending : (made.names ++ ps.map Prod.fst).Pairwise (· < ·))
    (h : ∀ p ∈ ps, ∃ b, f p.1 p.2 = .ok b) :
    ∃ r : Roster β, ps.foldlM (fun made p => do .ok (made.insert p.1 (← f p.1 p.2))) made = .ok r ∧
      r.names = made.names ++ ps.map Prod.fst ∧ made.toList ⊆ r.toList ∧
      ∀ p ∈ ps, ∃ b, f p.1 p.2 = .ok b ∧ (p.1, b) ∈ r.toList := by
  induction ps generalizing made with
  | nil => exact ⟨made, rfl, by simp, List.Subset.refl _, by simp⟩
  | cons p ps ih =>
    obtain ⟨b, hb⟩ := h p List.mem_cons_self
    have hbefore : ∀ q ∈ made.toList, q.1 < p.1 := fun q hq =>
      (List.pairwise_append.mp hascending).2.2 q.1 (List.mem_map_of_mem hq) p.1 List.mem_cons_self
    have hinsert : (made.insert p.1 b).toList = made.toList ++ [(p.1, b)] := insertList_last hbefore
    have hnames : (made.insert p.1 b).names ++ ps.map Prod.fst = made.names ++ (p :: ps).map Prod.fst := by
      simp [names, hinsert]
    obtain ⟨r, hr, hrest, hsubset, hmem⟩ :=
      ih (hnames ▸ hascending) fun q hq => h q (List.mem_cons_of_mem p hq)
    rw [hinsert, List.append_subset] at hsubset
    have hin : (p.1, b) ∈ r.toList := hsubset.2 (List.mem_singleton_self _)
    refine ⟨r, ?_, hrest.trans hnames, hsubset.1, List.forall_mem_cons.mpr ⟨⟨b, hb, hin⟩, hmem⟩⟩
    rw [List.foldlM_cons, hb]
    exact hr

theorem mapM_ok {f : String → α → Except ε β} (h : ∀ p ∈ r.toList, ∃ b, f p.1 p.2 = .ok b) :
    ∃ made, r.mapM f = .ok made ∧ made.names = r.names ∧
      ∀ name value, r.get? name = some value → ∃ b, f name value = .ok b ∧ made.get? name = some b := by
  have hascending : ((empty : Roster β).names ++ r.toList.map Prod.fst).Pairwise (· < ·) := r.ascending
  obtain ⟨made, hmade, hnames, -, hmem⟩ := foldlM_insert hascending h
  refine ⟨made, hmade, hnames, fun name value hv => ?_⟩
  obtain ⟨b, hb, hin⟩ := hmem (name, value) (get?_eq_some_iff.mp hv)
  exact ⟨b, hb, get?_eq_some_iff.mpr hin⟩

theorem foldlM_insert_each {f : String → α → Except ε β} {ps : List (String × α)} {made r : Roster β}
    (h : ps.foldlM (fun made p => do .ok (made.insert p.1 (← f p.1 p.2))) made = .ok r) :
    ∀ p ∈ ps, ∃ b, f p.1 p.2 = .ok b := by
  induction ps generalizing made with
  | nil => simp
  | cons p ps ih =>
    rw [List.foldlM_cons] at h
    obtain ⟨_, hhead, htail⟩ := bind_ok h
    obtain ⟨b, hb, -⟩ := bind_ok hhead
    exact List.forall_mem_cons.mpr ⟨⟨b, hb⟩, ih htail⟩

theorem mapM_ok_iff {f : String → α → Except ε β} :
    (∃ made, r.mapM f = .ok made) ↔ ∀ p ∈ r.toList, ∃ b, f p.1 p.2 = .ok b := by
  constructor
  · rintro ⟨made, h⟩
    exact foldlM_insert_each h
  · intro h
    obtain ⟨made, hmade, -⟩ := mapM_ok h
    exact ⟨made, hmade⟩

theorem of_mapM_ok {f : String → α → Except ε β} {made : Roster β} (h : r.mapM f = .ok made) :
    made.names = r.names ∧
      ∀ name value, r.get? name = some value → ∃ b, f name value = .ok b ∧ made.get? name = some b := by
  obtain ⟨_, h', hmade⟩ := mapM_ok (mapM_ok_iff.mp ⟨made, h⟩)
  obtain rfl := Except.ok.inj (h.symm.trans h')
  exact hmade

end Roster
end TaggedCache
