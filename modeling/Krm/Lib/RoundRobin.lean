import Mathlib.Data.List.Rotate

/-! # Taking turns

A turn goes to the first element after the last one, around the list, that the predicate admits. -/

namespace Krm.Lib

section

variable {α : Type} (p : α → Bool)

/-- How many of the first `m` elements are admitted. -/
def rank (l : List α) (m : Nat) : Nat := (l.take m).countP p

theorem filter_rotate {l : List α} {m : Nat} (hm : m ≤ l.length) :
    (l.rotate m).filter p = (l.filter p).rotate (rank p l m) := by
  have hsplit : (l.take m).filter p ++ (l.drop m).filter p = l.filter p := by
    rw [← List.filter_append, List.take_append_drop]
  rw [List.rotate_eq_drop_append_take hm, List.filter_append, rank, List.countP_eq_length_filter, ← hsplit,
    List.rotate_append_length_eq]

theorem find_rotate {l : List α} {m : Nat} (hm : m ≤ l.length) :
    (l.rotate m).find? p = (l.filter p)[rank p l m % (l.filter p).length]? := by
  -- Going around from place `m` finds the element whose turn comes after the admitted ones before `m`.
  rw [← List.head?_filter, filter_rotate p hm]
  cases hnil : l.filter p with
  | nil => simp
  | cons a rest => rw [List.head?_eq_getElem?, List.getElem?_rotate (by simp), Nat.zero_add]

variable [DecidableEq α]

/-- The turn after that of `x`. -/
def turnAfter (l : List α) (x : α) : Option α := (l.rotate (l.idxOf x + 1)).find? p

theorem exists_turnAfter {l : List α} (h : ∃ a ∈ l, p a) (x : α) : ∃ a ∈ l, p a ∧ turnAfter p l x = some a := by
  obtain ⟨a, ha, hpa⟩ := h
  have hsome : (turnAfter p l x).isSome := List.find?_isSome.2 ⟨a, List.mem_rotate.2 ha, hpa⟩
  obtain ⟨b, hb⟩ := Option.isSome_iff_exists.1 hsome
  have hpb : p b := List.find?_some hb
  exact ⟨b, List.mem_rotate.1 (List.mem_of_find?_eq_some hb), hpb, hb⟩

theorem rank_idxOf {l : List α} (hnodup : l.Nodup) {j : Nat} {x : α} (hx : (l.filter p)[j]? = some x) :
    rank p l (l.idxOf x + 1) = j + 1 := by
  have hmem : x ∈ l.filter p := List.mem_of_getElem? hx
  obtain ⟨hxl, hpx⟩ := List.mem_filter.1 hmem
  have hlt : l.idxOf x < l.length := List.idxOf_lt_length_iff.2 hxl
  have hsucc : rank p l (l.idxOf x + 1) = rank p l (l.idxOf x) + 1 := by
    rw [rank, List.take_add_one, List.getElem?_idxOf hxl, List.countP_append]
    simp [rank, hpx]
  -- the admitted elements before `x` are as many as its place among the admitted ones
  have hplace : (l.filter p)[rank p l (l.idxOf x)]? = some x := by
    have hsplit : l.filter p = (l.take (l.idxOf x)).filter p ++ (l.drop (l.idxOf x)).filter p := by
      rw [← List.filter_append, List.take_append_drop]
    rw [hsplit, rank, List.countP_eq_length_filter, List.getElem?_append_right (Nat.le_refl _), Nat.sub_self,
      List.drop_eq_getElem_cons hlt, List.getElem_idxOf, List.filter_cons_of_pos hpx]
    rfl
  have hj : j < (l.filter p).length := (List.getElem?_eq_some_iff.1 hx).1
  have hsame : j = rank p l (l.idxOf x) := (List.getElem?_inj hj (hnodup.filter p)).1 (hx.trans hplace.symm)
  rw [hsucc, ← hsame]

variable {p} {l : List α} {x : Nat → α} {n : Nat}

/-- Turns go around the admitted elements in their order. -/
theorem turns_in_order (hnodup : l.Nodup) (hstart : x 0 ∈ l)
    (hturn : ∀ t < n, turnAfter p l (x t) = some (x (t + 1))) (t : Nat) (ht : t < n) :
    (l.filter p)[(rank p l (l.idxOf (x 0) + 1) + t) % (l.filter p).length]? = some (x (t + 1)) := by
  induction t with
  | zero =>
    have hfirst := hturn 0 ht
    rwa [turnAfter, find_rotate p (List.idxOf_lt_length_iff.2 hstart)] at hfirst
  | succ t ih =>
    have hlast := ih (by omega)
    have hmem : x (t + 1) ∈ l := (List.mem_filter.1 (List.mem_of_getElem? hlast)).1
    have hnext := hturn (t + 1) ht
    rw [turnAfter, find_rotate p (List.idxOf_lt_length_iff.2 hmem), rank_idxOf p hnodup hlast, Nat.mod_add_mod] at hnext
    exact hnext

theorem exists_mod_eq {j k : Nat} (hj : j < k) (m : Nat) : ∃ d < k, (m + d) % k = j := by
  have hk : 0 < k := by omega
  have hm : m % k < k := Nat.mod_lt m hk
  rcases Nat.lt_or_ge j (m % k) with hlt | hge
  · refine ⟨j + k - m % k, by omega, ?_⟩
    rw [← Nat.mod_add_mod, show m % k + (j + k - m % k) = j + k by omega, Nat.add_mod_right, Nat.mod_eq_of_lt hj]
  · refine ⟨j - m % k, by omega, ?_⟩
    rw [← Nat.mod_add_mod, show m % k + (j - m % k) = j by omega, Nat.mod_eq_of_lt hj]

/-- As many turns as there are admitted elements reach every one of them. -/
theorem turn_of_each (hnodup : l.Nodup) (hstart : x 0 ∈ l)
    (hturn : ∀ t < n, turnAfter p l (x t) = some (x (t + 1))) {a : α} (ha : a ∈ l.filter p) {t : Nat}
    (ht : t + (l.filter p).length ≤ n) : ∃ u, t < u ∧ u ≤ t + (l.filter p).length ∧ x u = a := by
  obtain ⟨j, hj, rfl⟩ := List.getElem_of_mem ha
  obtain ⟨d, hd, hmod⟩ := exists_mod_eq hj (rank p l (l.idxOf (x 0) + 1) + t)
  have hthere := turns_in_order hnodup hstart hturn (t + d) (by omega)
  rw [← Nat.add_assoc, hmod, List.getElem?_eq_getElem hj] at hthere
  exact ⟨t + d + 1, by omega, by omega, (Option.some.inj hthere).symm⟩

end

end Krm.Lib
