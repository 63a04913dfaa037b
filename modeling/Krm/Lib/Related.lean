import Krm.Lib.Store

/-! # Stores that are related key by key -/

namespace Krm.Lib.Store

variable {α β κ : Type} [DecidableEq κ] {key : α → κ}

/-- The same keys, and related objects under each. -/
structure Related (R : α → α → Prop) (s s' : Store key) : Prop where
  get : ∀ {k a}, s.get k = some a → ∃ b, s'.get k = some b ∧ R a b
  get_before : ∀ {k b}, s'.get k = some b → ∃ a, s.get k = some a ∧ R a b

section

variable {R R' : α → α → Prop} {s s' s'' : Store key}

theorem Related.refl (hR : ∀ a ∈ s.items, R a a) : Related R s s :=
  ⟨fun h => ⟨_, h, hR _ (get_mem h)⟩, fun h => ⟨_, h, hR _ (get_mem h)⟩⟩

theorem Related.mono (h : Related R s s') (hR : ∀ a ∈ s.items, ∀ b, R a b → R' a b) : Related R' s s' := by
  constructor
  · intro k a ha
    obtain ⟨b, hb, hab⟩ := h.get ha
    exact ⟨b, hb, hR a (get_mem ha) b hab⟩
  · intro k b hb
    obtain ⟨a, ha, hab⟩ := h.get_before hb
    exact ⟨a, ha, hR a (get_mem ha) b hab⟩

theorem Related.map_get_eq {γ : Type} {f : α → γ} (h : Related R s s')
    (hf : ∀ a ∈ s.items, ∀ b, R a b → f b = f a) (k : κ) : (s'.get k).map f = (s.get k).map f := by
  cases ha : s.get k with
  | some a =>
    obtain ⟨b, hb, hab⟩ := h.get ha
    rw [hb, Option.map_some, Option.map_some, hf a (get_mem ha) b hab]
  | none =>
    cases hb : s'.get k with
    | none => rfl
    | some b =>
      obtain ⟨a, ha', -⟩ := h.get_before hb
      cases ha.symm.trans ha'

end

theorem filterMap_get (s : Store key) : (s.items.map key).filterMap s.get = s.items := by
  rw [List.filterMap_map]
  conv_rhs => rw [← List.filterMap_some (l := s.items)]
  apply List.filterMap_congr
  intro a ha
  exact get_of_mem ha

theorem items_eq_map {s s' : Store key} {f : α → α} (hkeys : s'.items.map key = s.items.map key)
    (hget : ∀ k, s'.get k = (s.get k).map f) : s'.items = s.items.map f := by
  calc s'.items = (s'.items.map key).filterMap s'.get := (filterMap_get s').symm
    _ = (s.items.map key).filterMap fun k => (s.get k).map f := by rw [hkeys, funext hget]
    _ = ((s.items.map key).filterMap s.get).map f := List.map_filterMap.symm
    _ = s.items.map f := by rw [filterMap_get]

variable {f : β → α → β} {g : α → α} (stored : β → Store key)

theorem get_foldl_replace (hf : ∀ acc a, stored (f acc a) = (stored acc).replace (g a))
    (hkey : ∀ a, key (g a) = key a) {l : List α} (hnodup : (l.map key).Nodup) (acc : β)
    (hmem : ∀ a ∈ l, ((stored acc).get (key a)).isSome) (k : κ) :
    (stored (l.foldl f acc)).get k =
      match l.find? (key · = k) with
      | some a => some (g a)
      | none => (stored acc).get k := by
  induction l generalizing acc with
  | nil => rfl
  | cons a l ih =>
    rw [List.map_cons, List.nodup_cons] at hnodup
    have hheld (k' : κ) : ((stored (f acc a)).get k').isSome = ((stored acc).get k').isSome := by
      rw [hf]
      by_cases hk' : key a = k'
      · have hself := get_replace_self (stored acc) (g a) ((hkey a).trans hk') (hk' ▸ hmem a (by simp))
        rw [hself, ← hk', hmem a (by simp)]
        rfl
      · rw [(agreeOff_replace (stored acc) (g a) (hkey a)).get_eq (by simpa using Ne.symm hk')]
    rw [List.foldl_cons, ih hnodup.2 (f acc a) fun b hb => by rw [hheld]; exact hmem b (by simp [hb])]
    rw [List.find?_cons]
    by_cases hk : key a = k
    · -- the key is not met again, and the object under it has just been replaced
      have hrest : l.find? (key · = k) = none := by
        rw [List.find?_eq_none]
        intro b hb heq
        exact hnodup.1 (List.mem_map.2 ⟨b, hb, by simpa [hk] using heq⟩)
      simp only [hk, decide_true, hrest]
      rw [hf]
      exact get_replace_self _ _ ((hkey a).trans hk) (hk ▸ hmem a (by simp))
    · simp only [hk, decide_false]
      rw [hf, (agreeOff_replace (stored acc) (g a) (hkey a)).get_eq (by simpa using Ne.symm hk)]

theorem find_filter_key {s : Store key} (p : α → Bool) (k : κ) :
    (s.items.filter p).find? (key · = k) = (s.get k).filter p := by
  cases hfind : (s.items.filter p).find? (key · = k) with
  | some b =>
    have hb := List.mem_filter.1 (List.mem_of_find?_eq_some hfind)
    have hkb : key b = k := by simpa using List.find?_some hfind
    rw [← hkb, get_of_mem hb.1, Option.filter_some_pos hb.2]
  | none =>
    rw [List.find?_eq_none] at hfind
    symm
    rw [Option.filter_eq_none_iff]
    intro a ha hp
    exact hfind a (List.mem_filter.2 ⟨get_mem ha, hp⟩) (by simpa using get_key ha)

theorem get_foldl_filter (hf : ∀ acc a, stored (f acc a) = (stored acc).replace (g a)) (hkey : ∀ a, key (g a) = key a)
    (p : α → Bool) {listed : Store key} (acc : β) (hmem : ∀ a ∈ listed.items, ((stored acc).get (key a)).isSome)
    (k : κ) :
    (stored ((listed.items.filter p).foldl f acc)).get k =
      (((listed.get k).filter p).map g).or ((stored acc).get k) := by
  have hnodup : ((listed.items.filter p).map key).Nodup := listed.nodup.sublist (List.filter_sublist.map key)
  rw [get_foldl_replace stored hf hkey hnodup acc fun a ha => hmem a (List.mem_of_mem_filter ha), find_filter_key]
  cases (listed.get k).filter p with
  | none => rfl
  | some a => rfl

theorem related_foldl_replace (hf : ∀ acc a, stored (f acc a) = (stored acc).replace (g a))
    (hkey : ∀ a, key (g a) = key a) (p : α → Bool) (acc : β) :
    Related (fun a b => b = if p a then g a else a) (stored acc)
      (stored (((stored acc).items.filter p).foldl f acc)) := by
  have hget (k : κ) : (stored (((stored acc).items.filter p).foldl f acc)).get k =
      ((stored acc).get k).map fun a => if p a then g a else a := by
    rw [get_foldl_filter stored hf hkey p acc fun a ha => by simp [get_of_mem ha]]
    cases (stored acc).get k with
    | none => rfl
    | some a => by_cases hp : p a <;> simp [Option.filter, hp]
  constructor
  · intro k a ha
    exact ⟨_, by rw [hget, ha, Option.map_some], rfl⟩
  · intro k b hb
    rw [hget, Option.map_eq_some_iff] at hb
    obtain ⟨a, ha, rfl⟩ := hb
    exact ⟨a, ha, rfl⟩

end Krm.Lib.Store
