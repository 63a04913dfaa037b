import Mathlib.Data.List.Nodup
import Mathlib.Data.List.Sort

/-! # Object stores: lists of objects with distinct keys -/

namespace Krm.Lib

/-- Objects under distinct keys, in the order of a listing. -/
structure Store {α κ : Type} (key : α → κ) where
  items : List α
  nodup : (items.map key).Nodup

namespace Store

variable {α κ : Type} [DecidableEq κ] {key : α → κ}

def empty : Store key := ⟨[], List.nodup_nil⟩

def single (a : α) : Store key := ⟨[a], List.nodup_singleton _⟩

def get (s : Store key) (k : κ) : Option α := s.items.find? (key · = k)

def list (s : Store key) (p : α → Bool) : List α := s.items.filter p

theorem map_key_replace (l : List α) (a : α) :
    (l.map fun b => if key b = key a then a else b).map key = l.map key := by
  rw [List.map_map]
  apply List.map_congr_left
  intro b _
  by_cases hb : key b = key a <;> simp [hb]

def replace (s : Store key) (a : α) : Store key where
  items := s.items.map fun b => if key b = key a then a else b
  nodup := by
    rw [map_key_replace]
    exact s.nodup

/-- The object `a` after all the others, unless its key is held. -/
def insert (s : Store key) (a : α) : Store key :=
  if h : key a ∈ s.items.map key then s
  else ⟨s.items ++ [a], by
    rw [List.map_append, List.map_singleton]
    exact List.nodup_append'.2 ⟨s.nodup, List.nodup_singleton _, by simpa using h⟩⟩

def remove (s : Store key) (k : κ) : Store key where
  items := s.items.filter (key · ≠ k)
  nodup := s.nodup.sublist (List.filter_sublist.map key)

/-- Each object changed under its key. -/
def map (s : Store key) (f : α → α) (hf : ∀ a, key (f a) = key a) : Store key where
  items := s.items.map f
  nodup := by
    have hkeys : (s.items.map f).map key = s.items.map key := by
      rw [List.map_map]
      exact List.map_congr_left fun a _ => hf a
    rw [hkeys]
    exact s.nodup

/-! ## Reading one key -/

variable {P : α → Prop} {k : κ} (s : Store key) (a : α)

theorem get_mem {s : Store key} {a : α} (h : s.get k = some a) : a ∈ s.items :=
  List.mem_of_find?_eq_some h

theorem get_key {s : Store key} {a : α} (h : s.get k = some a) : key a = k := by
  have hk := List.find?_some h
  simpa using hk

omit [DecidableEq κ] in
theorem eq_of_mem {s : Store key} {a b : α} (ha : a ∈ s.items) (hb : b ∈ s.items) (h : key a = key b) :
    a = b :=
  List.inj_on_of_nodup_map s.nodup ha hb h

theorem get_eq_none_iff (k : κ) : s.get k = none ↔ ∀ a ∈ s.items, key a ≠ k := by
  simp [get, List.find?_eq_none]

theorem get_of_mem {s : Store key} {a : α} (h : a ∈ s.items) : s.get (key a) = some a := by
  match hget : s.get (key a) with
  | none => exact absurd rfl ((get_eq_none_iff s (key a)).1 hget a h)
  | some b => rw [eq_of_mem (get_mem hget) h (get_key hget)]

theorem get_eq_some_iff (k : κ) (a : α) : s.get k = some a ↔ a ∈ s.items ∧ key a = k := by
  refine ⟨fun h => ⟨get_mem h, get_key h⟩, ?_⟩
  rintro ⟨ha, rfl⟩
  exact get_of_mem ha

@[simp] theorem mem_remove (k : κ) (a : α) : a ∈ (s.remove k).items ↔ a ∈ s.items ∧ key a ≠ k := by
  simp [remove]

theorem get_map {f : α → α} (hf : ∀ a, key (f a) = key a) (k : κ) : (s.map f hf).get k = (s.get k).map f := by
  simp only [get, map, List.find?_map, Function.comp_def, hf]

theorem mem_replace (a b : α) (hk : key a = k) (h : (s.get k).isSome) :
    b ∈ (s.replace a).items ↔ b = a ∨ (b ∈ s.items ∧ key b ≠ k) := by
  subst hk
  obtain ⟨c, hc⟩ := Option.isSome_iff_exists.1 h
  simp only [replace, List.mem_map]
  constructor
  · rintro ⟨d, hd, rfl⟩
    by_cases hk : key d = key a
    · left; simp [hk]
    · right; simp [hk, hd]
  · rintro (rfl | ⟨hb, hk⟩)
    · exact ⟨c, get_mem hc, by simp [get_key hc]⟩
    · exact ⟨b, hb, by simp [hk]⟩

theorem insert_items (h : s.get (key a) = none) : (s.insert a).items = s.items ++ [a] := by
  have hfree : key a ∉ s.items.map key := by
    simpa [List.mem_map] using (get_eq_none_iff s (key a)).1 h
  rw [insert, dif_neg hfree]

theorem mem_insert (a b : α) (h : s.get (key a) = none) : b ∈ (s.insert a).items ↔ b = a ∨ b ∈ s.items := by
  rw [insert_items s a h]
  simp [or_comm]

theorem forall_insert {s : Store key} (h : ∀ b ∈ s.items, P b) {a : α} (ha : P a) : ∀ b ∈ (s.insert a).items, P b := by
  unfold insert
  split_ifs
  · exact h
  · exact List.forall_mem_append.2 ⟨h, List.forall_mem_singleton.2 ha⟩

theorem forall_replace {s : Store key} (h : ∀ b ∈ s.items, P b) {a : α} (ha : P a) :
    ∀ b ∈ (s.replace a).items, P b := by
  refine List.forall_mem_map.2 fun b hb => ?_
  split_ifs
  · exact ha
  · exact h b hb

theorem forall_remove {s : Store key} (h : ∀ b ∈ s.items, P b) : ∀ b ∈ (s.remove k).items, P b :=
  fun b hb => h b (List.mem_of_mem_filter hb)

theorem get_insert_self (hk : key a = k) (h : s.get k = none) : (s.insert a).get k = some a := by
  subst hk
  exact get_of_mem ((mem_insert s a a h).2 (.inl rfl))

theorem get_replace_self (hk : key a = k) (h : (s.get k).isSome) : (s.replace a).get k = some a := by
  subst hk
  exact get_of_mem ((mem_replace s a a rfl h).2 (.inl rfl))

theorem keys_replace : (s.replace a).items.map key = s.items.map key :=
  map_key_replace s.items a

theorem replace_self {s : Store key} {a : α} (h : a ∈ s.items) : s.replace a = s := by
  have hitems : (s.items.map fun b => if key b = key a then a else b) = s.items := by
    conv_rhs => rw [← List.map_id s.items]
    apply List.map_congr_left
    intro b hb
    by_cases hk : key b = key a
    · simp [eq_of_mem hb h hk]
    · simp [hk]
  cases s
  simp only [replace] at hitems ⊢
  congr

theorem replace_replace {a b : α} (hk : key b = key a) : (s.replace a).replace b = s.replace b := by
  have hitems : ((s.items.map fun d => if key d = key a then a else d).map fun d => if key d = key b then b else d) =
      s.items.map fun d => if key d = key b then b else d := by
    rw [List.map_map]
    apply List.map_congr_left
    intro d _
    by_cases hd : key d = key a <;> simp [hd, hk]
  unfold replace
  congr

theorem map_filter_replace {a : α} {p : α → Bool} (h : ∀ b ∈ s.items, key b = key a → p b = p a) :
    ((s.replace a).items.filter p).map key = (s.items.filter p).map key := by
  rw [replace, List.filter_map, List.map_map]
  have hlisted : ∀ b ∈ s.items, (p ∘ fun b => if key b = key a then a else b) b = p b := by
    intro b hb
    by_cases hk : key b = key a
    · simp [hk, h b hb hk]
    · simp [hk]
  rw [List.filter_congr hlisted]
  apply List.map_congr_left
  intro b _
  by_cases hk : key b = key a <;> simp [hk]

/-! ## Objects that stay as they are -/

/-- The objects of `s` with `p` are in `s'` as they are. -/
def Spares (p : α → Prop) (s s' : Store key) : Prop := ∀ a ∈ s.items, p a → a ∈ s'.items

namespace Spares

variable {p : α → Prop} {s s' s'' : Store key}

omit [DecidableEq κ] in
theorem refl : Spares p s s := fun _ ha _ => ha

omit [DecidableEq κ] in
theorem trans (h : Spares p s s') (h' : Spares p s' s'') : Spares p s s'' := fun a ha hp => h' a (h a ha hp) hp

omit [DecidableEq κ] in
theorem of_mem (h : Spares (fun a => p a ∧ a ∈ s.items) s s') : Spares p s s' := fun a ha hp => h a ha ⟨hp, ha⟩

theorem insert (a : α) : Spares p s (s.insert a) := by
  intro b hb _
  unfold Store.insert
  split_ifs
  · exact hb
  · simp [hb]

theorem replace {a : α} (h : ∀ b ∈ s.items, key b = key a → ¬ p b) : Spares p s (s.replace a) := by
  intro b hb hpb
  have hne : key b ≠ key a := fun hkey => h b hb hkey hpb
  exact List.mem_map.2 ⟨b, hb, if_neg hne⟩

theorem replace_get {k : κ} {a b : α} (hget : s.get k = some b) (ha : key a = k) (hp : ¬ p b) :
    Spares p s (s.replace a) := by
  refine replace fun d hd hkey => ?_
  rw [eq_of_mem hd (get_mem hget) (hkey.trans (ha.trans (get_key hget).symm))]
  exact hp

theorem not_of_replace {k : κ} {a b : α} (h : Spares p s (s.replace a)) (hget : s.get k = some b) (ha : key a = k)
    (hne : a ≠ b) : ¬ p b := by
  intro hp
  have hstays := get_of_mem (h b (get_mem hget) hp)
  rw [get_key hget, get_replace_self s a ha (by simp [hget])] at hstays
  exact hne (Option.some.inj hstays)

theorem remove {k : κ} (h : ∀ b ∈ s.items, key b = k → ¬ p b) : Spares p s (s.remove k) := by
  intro b hb hpb
  exact (mem_remove s k b).2 ⟨hb, fun hkey => h b hb hkey hpb⟩

end Spares

/-! ## Stores that agree outside a set of keys -/

/-- The same objects in the same order under every key not in `c`. -/
def AgreeOff (c : List κ) (s s' : Store key) : Prop :=
  s.items.filter (key · ∉ c) = s'.items.filter (key · ∉ c)

namespace AgreeOff

theorem refl (c : List κ) (s : Store key) : AgreeOff c s s := rfl

variable {s s' : Store key} {c : List κ}

theorem mono {c c' : List κ} (h : AgreeOff c s s') (hc : c ⊆ c') : AgreeOff c' s s' := by
  have hsplit : ∀ t : Store key, t.items.filter (key · ∉ c') =
      (t.items.filter (key · ∉ c)).filter (key · ∉ c') := by
    intro t
    rw [List.filter_filter]
    apply List.filter_congr
    intro a _
    by_cases ha : key a ∈ c
    · simp [ha, hc ha]
    · simp [ha]
  unfold AgreeOff at h ⊢
  rw [hsplit s, hsplit s', h]

theorem trans {s s' s'' : Store key} (h : AgreeOff c s s') (h' : AgreeOff c s' s'') : AgreeOff c s s'' :=
  Eq.trans h h'

theorem mem_iff (h : AgreeOff c s s') {a : α} (ha : key a ∉ c) : a ∈ s.items ↔ a ∈ s'.items := by
  have hf : a ∈ s.items.filter (key · ∉ c) ↔ a ∈ s'.items.filter (key · ∉ c) := by rw [h]
  simpa [List.mem_filter, ha] using hf

theorem get_eq (h : AgreeOff c s s') {k : κ} (hk : k ∉ c) : s.get k = s'.get k := by
  apply Option.ext
  intro a
  rw [get_eq_some_iff, get_eq_some_iff]
  constructor
  · rintro ⟨ha, rfl⟩
    exact ⟨(h.mem_iff hk).1 ha, rfl⟩
  · rintro ⟨ha, rfl⟩
    exact ⟨(h.mem_iff hk).2 ha, rfl⟩

theorem find_eq (h : AgreeOff c s s') (p : α → Bool) (hp : ∀ a ∈ s'.items, key a ∈ c → p a = false) :
    s'.items.find? p = s.items.find? fun a => p a && decide (key a ∉ c) := by
  have hskip : ∀ a ∈ s'.items, p a = (p a && decide (key a ∉ c)) := by
    intro a ha
    by_cases hc : key a ∈ c
    · simp [hp a ha hc]
    · simp [hc]
  rw [← List.head?_filter, ← List.head?_filter, List.filter_congr hskip, ← List.filter_filter,
    ← List.filter_filter, h]

end AgreeOff

theorem agreeOff_replace (hk : key a = k) : AgreeOff [k] s (s.replace a) := by
  subst hk
  have hitem : ∀ l : List α, l.filter (key · ∉ [key a]) =
      (l.map fun b => if key b = key a then a else b).filter (key · ∉ [key a]) := by
    intro l
    induction l with
    | nil => rfl
    | cons b l ih =>
      by_cases hb : key b = key a
      · simpa [hb] using ih
      · simpa [hb] using ih
  exact hitem s.items

theorem agreeOff_insert (hk : key a = k) : AgreeOff [k] s (s.insert a) := by
  subst hk
  unfold AgreeOff
  by_cases h : key a ∈ s.items.map key
  · rw [insert, dif_pos h]
  · rw [insert, dif_neg h, List.filter_append]
    simp

theorem agreeOff_remove (k : κ) : AgreeOff [k] s (s.remove k) := by
  unfold AgreeOff remove
  rw [List.filter_filter]
  refine (List.filter_congr fun a _ => ?_).symm
  by_cases h : key a = k <;> simp [h]

theorem get_remove_self (k : κ) : (s.remove k).get k = none :=
  (get_eq_none_iff _ _).2 fun a ha => ((mem_remove s k a).1 ha).2

/-! ## Objects in the order of their keys -/

section Sorted

variable {κ : Type} [LinearOrder κ] {key : α → κ}

theorem insertionSort_filter (s : Store key) (p q : α → Bool) :
    ((s.items.filter p).filter q).insertionSort (fun a b => key a ≤ key b) =
      ((s.items.filter p).insertionSort fun a b => key a ≤ key b).filter q := by
  let r : α → α → Prop := fun a b => key a ≤ key b
  have : Std.Total r := ⟨fun a b => le_total (key a) (key b)⟩
  have : IsTrans α r := ⟨fun _ _ _ => le_trans⟩
  have hmem : ∀ a ∈ ((s.items.filter p).filter q).insertionSort r, a ∈ s.items := fun a ha =>
    List.mem_of_mem_filter (List.mem_of_mem_filter ((List.mem_insertionSort r).1 ha))
  have hperm : ((s.items.filter p).filter q).insertionSort r |>.Perm (((s.items.filter p).insertionSort r).filter q) :=
    (List.perm_insertionSort r _).trans ((List.perm_insertionSort r _).filter q).symm
  refine hperm.eq_of_pairwise (fun a b ha hb hab hba => ?_) (List.pairwise_insertionSort r _)
    ((List.pairwise_insertionSort r _).filter q)
  exact eq_of_mem (hmem a ha) (hmem b (hperm.mem_iff.2 hb)) (le_antisymm hab hba)

end Sorted

/-! ## A store written over -/

/-- `s` is `s₀` written over with `ws`, the latest first. -/
structure Written {ω : Type} (s₀ : Store key) (name : ω → κ) (like : ω → α → Prop) (ws : List ω)
    (s : Store key) : Prop where
  agree : AgreeOff (ws.map name) s₀ s
  last : ∀ k w, ws.find? (name · = k) = some w → ∃ a, s.get k = some a ∧ like w a

namespace Written

variable {ω : Type} {name : ω → κ} {like : ω → α → Prop} {s₀ s s' : Store key} {ws : List ω}

theorem start (s : Store key) : Written s name like [] s := ⟨.refl _ _, by simp⟩

theorem write (h : Written s₀ name like ws s) {w : ω} (hagree : AgreeOff [name w] s s')
    (hget : ∃ a, s'.get (name w) = some a ∧ like w a) : Written s₀ name like (w :: ws) s' := by
  constructor
  · have hold : AgreeOff ((w :: ws).map name) s₀ s := h.agree.mono (by simp)
    exact hold.trans (hagree.mono (by simp))
  · intro k w' hw'
    by_cases hk : name w = k
    · subst hk
      simp only [List.find?_cons, decide_true, Option.some.injEq] at hw'
      exact hw' ▸ hget
    · simp only [List.find?_cons, hk, decide_false] at hw'
      obtain ⟨a, ha, hlike⟩ := h.last k w' hw'
      refine ⟨a, ?_, hlike⟩
      rw [← ha]
      exact (hagree.get_eq (by simpa using fun e => hk e.symm)).symm

theorem get_written (h : Written s₀ name like ws s) {k : κ} (hk : k ∈ ws.map name) : ∃ a, s.get k = some a := by
  obtain ⟨w, hw⟩ : ∃ w, ws.find? (name · = k) = some w := by
    rw [← Option.isSome_iff_exists, List.find?_isSome]
    simpa using hk
  obtain ⟨a, ha, -⟩ := h.last k w hw
  exact ⟨a, ha⟩

theorem mem_written (h : Written s₀ name like ws s) {a : α} (ha : a ∈ s.items) (hk : key a ∈ ws.map name) :
    ∃ w, ws.find? (name · = key a) = some w ∧ like w a := by
  obtain ⟨w, hw⟩ : ∃ w, ws.find? (name · = key a) = some w := by
    rw [← Option.isSome_iff_exists, List.find?_isSome]
    simpa using hk
  obtain ⟨b, hb, hlike⟩ := h.last _ w hw
  rw [get_of_mem ha] at hb
  cases hb
  exact ⟨w, hw, hlike⟩

end Written

end Store

/-! ## Writes in order -/

section Writes

variable {ω κ : Type} [DecidableEq κ]

/-- The writes among the first `i` turns, the latest first. -/
def writesUpTo (w : Nat → Option ω) : Nat → List ω
  | 0 => []
  | i + 1 => (w i).toList ++ writesUpTo w i

omit [DecidableEq κ] in
theorem map_writesUpTo {υ : Type} (f : ω → υ) (w : Nat → Option ω) (i : Nat) :
    (writesUpTo w i).map f = writesUpTo (fun j => (w j).map f) i := by
  induction i with
  | zero => rfl
  | succ i ih => cases h : w i <;> simp [writesUpTo, h, ih]

omit [DecidableEq κ] in
theorem mem_writesUpTo {w : Nat → Option ω} {i : Nat} {x : ω} :
    x ∈ writesUpTo w i ↔ ∃ j < i, w j = some x := by
  induction i with
  | zero => simp [writesUpTo]
  | succ i ih =>
    simp only [writesUpTo, List.mem_append, Option.mem_toList, ih]
    constructor
    · rintro (h | ⟨j, hj, h⟩)
      · exact ⟨i, by omega, h⟩
      · exact ⟨j, by omega, h⟩
    · rintro ⟨j, hj, h⟩
      rcases Nat.lt_succ_iff_lt_or_eq.1 hj with hj | rfl
      · exact .inr ⟨j, hj, h⟩
      · exact .inl h

theorem find_writesUpTo {w : Nat → Option ω} (name : ω → κ) {i : Nat} {k : κ} {x : ω} :
    (writesUpTo w i).find? (name · = k) = some x ↔
      ∃ j < i, w j = some x ∧ name x = k ∧ ∀ l, j < l → l < i → ∀ y, w l = some y → name y ≠ k := by
  induction i with
  | zero => simp [writesUpTo]
  | succ i ih =>
    rw [writesUpTo, List.find?_append]
    by_cases hi : ∃ y, w i = some y ∧ name y = k
    · obtain ⟨y, hy, hk⟩ := hi
      have hfind : (w i).toList.find? (name · = k) = some y := by simp [hy, hk]
      rw [hfind, Option.some_or, Option.some.injEq]
      constructor
      · rintro rfl
        exact ⟨i, by omega, hy, hk, fun l hl hl' => absurd hl' (by omega)⟩
      · rintro ⟨j, hj, hx, -, hlast⟩
        rcases Nat.lt_succ_iff_lt_or_eq.1 hj with hj | rfl
        · exact absurd hk (hlast i hj (by omega) y hy)
        · rw [hy] at hx
          exact Option.some.inj hx
    · have hfind : (w i).toList.find? (name · = k) = none := by
        rw [List.find?_eq_none]
        intro y hy
        simp only [Option.mem_toList] at hy
        simpa using fun hk => hi ⟨y, hy, hk⟩
      rw [hfind, Option.none_or, ih]
      constructor
      · rintro ⟨j, hj, hx, hk, hlast⟩
        refine ⟨j, by omega, hx, hk, fun l hl hl' y hy hky => ?_⟩
        rcases Nat.lt_succ_iff_lt_or_eq.1 hl' with hl' | rfl
        · exact hlast l hl hl' y hy hky
        · exact hi ⟨y, hy, hky⟩
      · rintro ⟨j, hj, hx, hk, hlast⟩
        rcases Nat.lt_succ_iff_lt_or_eq.1 hj with hj | rfl
        · exact ⟨j, hj, hx, hk, fun l hl hl' => hlast l hl (by omega)⟩
        · exact absurd ⟨x, hx, hk⟩ hi

end Writes

end Krm.Lib
