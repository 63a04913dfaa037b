import Krm.Lib.Store

/-! # Searches of a store

Which objects with a property a store has, and which of them comes first, after writes that bring none of them or
exactly one. -/

namespace Krm.Lib.Store

variable {α κ : Type} [DecidableEq κ] {key : α → κ} {p : α → Bool} {s s' s'' : Store key} {a b : α} {k : κ}

/-! ## Writes that bring no object with the property -/

/-- The objects with the property that are left keep their order. -/
def Thins (p : α → Bool) (s s' : Store key) : Prop := (s'.items.filter p).Sublist (s.items.filter p)

namespace Thins

omit [DecidableEq κ] in
theorem refl (p : α → Bool) (s : Store key) : Thins p s s := List.Sublist.refl _

omit [DecidableEq κ] in
theorem trans (h : Thins p s s') (h' : Thins p s' s'') : Thins p s s'' := List.Sublist.trans h' h

omit [DecidableEq κ] in
theorem of_sublist (h : s'.items.Sublist s.items) : Thins p s s' := h.filter p

theorem remove (s : Store key) (k : κ) : Thins p s (s.remove k) := of_sublist List.filter_sublist

theorem of_agreeOff {c : List κ} (h : AgreeOff c s s') (hp : ∀ a ∈ s'.items, key a ∈ c → p a = false) :
    Thins p s s' := by
  have hskip : s'.items.filter p = (s'.items.filter (key · ∉ c)).filter p := by
    rw [List.filter_filter]
    refine List.filter_congr fun a ha => ?_
    by_cases hc : key a ∈ c
    · simp [hp a ha hc]
    · simp [hc]
  unfold Thins
  rw [hskip, ← h]
  exact List.filter_sublist.filter p

omit [DecidableEq κ] in
theorem find_eq (h : Thins p s s') (hfind : s.items.find? p = some a) (ha : a ∈ s'.items) :
    s'.items.find? p = some a := by
  have hp := List.find?_some hfind
  rw [← List.head?_filter] at hfind ⊢
  obtain ⟨others, hothers⟩ := List.head?_eq_some_iff.1 hfind
  have hnodup : (s.items.filter p).Nodup := (List.Nodup.of_map key s.nodup).sublist List.filter_sublist
  have hmem : a ∈ s'.items.filter p := List.mem_filter.2 ⟨ha, hp⟩
  unfold Thins at h
  rw [hothers] at h hnodup
  rcases List.sublist_cons_iff.1 h with htail | ⟨rest, hrest, -⟩
  · exact absurd (htail.subset hmem) (List.nodup_cons.1 hnodup).1
  · rw [hrest]
    rfl

omit [DecidableEq κ] in
theorem find_none (h : Thins p s s') (hfind : s.items.find? p = none) : s'.items.find? p = none := by
  rw [← List.head?_filter, List.head?_eq_none_iff] at hfind ⊢
  unfold Thins at h
  rw [hfind] at h
  exact List.sublist_nil.1 h

end Thins

/-! ## Writes that leave the objects with the property alone -/

def Keeps (p : α → Bool) (s s' : Store key) : Prop := s'.items.filter p = s.items.filter p

namespace Keeps

omit [DecidableEq κ] in
theorem trans (h : Keeps p s s') (h' : Keeps p s' s'') : Keeps p s s'' := Eq.trans h' h

omit [DecidableEq κ] in
theorem mem_iff (h : Keeps p s s') (ha : p a = true) : a ∈ s'.items ↔ a ∈ s.items := by
  have hmem : a ∈ s'.items.filter p ↔ a ∈ s.items.filter p := by rw [h]
  simpa [ha] using hmem

end Keeps

omit [DecidableEq κ] in
theorem Thins.keeps (h : Thins p s s') (hall : ∀ a ∈ s.items, p a = true → a ∈ s'.items) : Keeps p s s' := by
  have hnodup : (s.items.filter p).Nodup := (List.Nodup.of_map key s.nodup).sublist List.filter_sublist
  have hsubset : s.items.filter p ⊆ s'.items.filter p := by
    intro a ha
    obtain ⟨ha, hp⟩ := List.mem_filter.1 ha
    exact List.mem_filter.2 ⟨hall a ha hp, hp⟩
  exact List.Sublist.eq_of_length_le h (List.subperm_of_subset hnodup hsubset).length_le

/-! ## Writes of an object with the property -/

theorem find_replace (hfind : s.items.find? p = some b) (hkey : key a = key b) (ha : p a = true) :
    (s.replace a).items.find? p = some a := by
  have hlist (l : List α) (hnodup : (l.map key).Nodup) (hl : l.find? p = some b) :
      (l.map fun c => if key c = key a then a else c).find? p = some a := by
    induction l with
    | nil => cases hl
    | cons c l ih =>
      rw [List.map_cons, List.nodup_cons] at hnodup
      cases hc : p c with
      | true =>
        rw [List.find?_cons_of_pos hc] at hl
        cases hl
        simp [hkey, ha]
      | false =>
        rw [List.find?_cons_of_neg (by simp [hc])] at hl
        have hne : key c ≠ key a := by
          rw [hkey]
          intro heq
          exact hnodup.1 (heq ▸ List.mem_map_of_mem (List.mem_of_find?_eq_some hl))
        rw [List.map_cons, if_neg hne, List.find?_cons_of_neg (by simp [hc])]
        exact ih hnodup.2 hl
  exact hlist s.items s.nodup hfind

theorem find_eq_of_unique {l : List α} (ha : a ∈ l) (hp : p a = true) (hunique : ∀ b ∈ l, p b = true → b = a) :
    l.find? p = some a := by
  obtain ⟨b, hb⟩ := Option.isSome_iff_exists.1 (List.find?_isSome.2 ⟨a, ha, hp⟩)
  rw [hb, hunique b (List.mem_of_find?_eq_some hb) (List.find?_some hb)]

theorem find_replace_of_none (hfind : s.items.find? p = none) (hheld : (s.get (key a)).isSome) (ha : p a = true) :
    (s.replace a).items.find? p = some a := by
  have hmem (b : α) := mem_replace s a b rfl hheld
  refine find_eq_of_unique ((hmem a).2 (.inl rfl)) ha fun b hb hp => ?_
  rcases (hmem b).1 hb with rfl | ⟨hb, -⟩
  · rfl
  · exact absurd hp (List.find?_eq_none.1 hfind b hb)

theorem find_insert_of_none (hfind : s.items.find? p = none) (hfree : s.get (key a) = none) (ha : p a = true) :
    (s.insert a).items.find? p = some a := by
  have hmem (b : α) := mem_insert s a b hfree
  refine find_eq_of_unique ((hmem a).2 (.inl rfl)) ha fun b hb hp => ?_
  rcases (hmem b).1 hb with rfl | hb
  · rfl
  · exact absurd hp (List.find?_eq_none.1 hfind b hb)

end Krm.Lib.Store
