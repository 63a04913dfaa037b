import Krm.Lib.Climb
import Krm.Lib.Store

/-! # The department tree -/

open Krm.Lib

namespace Krm.Departments

def maxDepth : Nat := 7

/-- Each department's parent, empty for a top-level department. -/
abbrev Tree := Store (Prod.fst : String × String → String)

namespace Tree

def set (t : Tree) (name parent : String) : Tree := (t.replace (name, parent)).insert (name, parent)

def parent (t : Tree) (name : String) : String := ((t.get name).map Prod.snd).getD ""

/-- The walk up from `name`, with what it has met, on to `parent`. -/
def walk (t : Tree) (name : String) : Nat → List String → String → List String × Bool
  | 0, ancestors, _ => (ancestors, false)
  | limit + 1, ancestors, parent =>
    if parent = "" then (ancestors, false)
    else if parent = name then (ancestors, true)
    else if (t.get parent).isNone ∨ parent ∈ ancestors then (ancestors, false)
    else walk t name limit (ancestors ++ [parent]) (t.parent parent)

/-- The departments above `name`, nearest first, and whether they lead back to it. -/
def ancestors (t : Tree) (name : String) (limit : Nat) : List String × Bool := walk t name limit [] (t.parent name)

def children (t : Tree) (name : String) : List String := (t.items.filter fun entry => entry.2 = name).map Prod.fst

def visit (acc : List String × List String) (child : String) : List String × List String :=
  if child ∈ acc.1 then acc else (child :: acc.1, acc.2 ++ [child])

/-- All that has been seen with the next level, and that level. -/
def nextLevel (t : Tree) (seen level : List String) : List String × List String :=
  (level.flatMap t.children).foldl visit (seen, [])

def levels (t : Tree) : Nat → List String → List String → Nat
  | 0, _, _ => 0
  | limit + 1, seen, level =>
    if level = [] then 0
    else levels t limit (nextLevel t seen level).1 (nextLevel t seen level).2 + 1

/-- The levels from `name` down, up to `limit` of them. -/
def height (t : Tree) (name : String) (limit : Nat) : Nat := levels t limit [name] [name]

/-! ## The parent function of the tree -/

def up (t : Tree) (name : String) : Option String := if t.parent name = "" then none else some (t.parent name)

theorem up_eq_some_iff (t : Tree) (a b : String) : t.up a = some b ↔ t.get a = some (a, b) ∧ b ≠ "" := by
  unfold up parent
  cases hget : t.get a with
  | none => simp
  | some entry =>
    have hkey : entry.1 = a := Store.get_key hget
    obtain ⟨a', b'⟩ := entry
    simp only at hkey
    subst hkey
    simp only [Option.map_some, Option.getD_some]
    constructor
    · intro h
      split_ifs at h with hempty
      cases h
      exact ⟨rfl, hempty⟩
    · rintro ⟨h, hne⟩
      obtain ⟨-, rfl⟩ := Prod.mk.inj (Option.some.inj h)
      rw [if_neg hne]

theorem mem_children_iff (t : Tree) {p : String} (hp : p ≠ "") (x : String) : x ∈ t.children p ↔ t.up x = some p := by
  rw [up_eq_some_iff, Store.get_eq_some_iff]
  simp only [children, List.mem_map, List.mem_filter, decide_eq_true_eq]
  constructor
  · rintro ⟨⟨x', p'⟩, ⟨hmem, rfl⟩, rfl⟩
    exact ⟨⟨hmem, trivial⟩, hp⟩
  · rintro ⟨⟨hmem, -⟩, -⟩
    exact ⟨(x, p), ⟨hmem, rfl⟩, rfl⟩

theorem get_set_self (t : Tree) (name parent : String) : (t.set name parent).get name = some (name, parent) := by
  cases hget : t.get name with
  | none =>
    refine Store.get_insert_self _ _ rfl ?_
    rw [Store.get_eq_none_iff] at hget ⊢
    intro entry hentry
    obtain ⟨old, hold, rfl⟩ := List.mem_map.1 hentry
    rw [if_neg (hget old hold)]
    exact hget old hold
  | some old =>
    have hself : (t.replace (name, parent)).get name = some (name, parent) :=
      Store.get_replace_self t _ rfl (by simp [hget])
    unfold set Store.insert
    rw [dif_pos (List.mem_map_of_mem (Store.get_mem hself))]
    exact hself

theorem get_set_of_ne (t : Tree) {name parent a : String} (h : a ≠ name) : (t.set name parent).get a = t.get a := by
  have hreplace := (Store.agreeOff_replace t (name, parent) rfl).get_eq (k := a) (by simpa using h)
  have hinsert := (Store.agreeOff_insert (t.replace (name, parent)) (name, parent) rfl).get_eq (k := a)
    (by simpa using h)
  exact (hreplace.trans hinsert).symm

theorem up_set (t : Tree) (name parent a : String) :
    (t.set name parent).up a = if a = name then (if parent = "" then none else some parent) else t.up a := by
  split_ifs with hname hempty
  · subst hname
    simp [up, Tree.parent, get_set_self, hempty]
  · subst hname
    simp [up, Tree.parent, get_set_self, hempty]
  · unfold up Tree.parent
    rw [get_set_of_ne t hname]

/-! ## The walk up -/

theorem walk_length (t : Tree) (name : String) (limit : Nat) (met : List String) (parent : String) :
    met.length ≤ (t.walk name limit met parent).1.length := by
  induction limit generalizing met parent with
  | zero => exact Nat.le_refl _
  | succ limit ih =>
    unfold walk
    split_ifs
    · exact Nat.le_refl _
    · exact Nat.le_refl _
    · exact Nat.le_refl _
    · refine Nat.le_trans ?_ (ih _ _)
      rw [List.length_append]
      omega

variable {met above : List String} {name : String} {t : Tree} {up₀ : String → Option String} (l : List String)
  (acc : List String × List String) (x : String)

theorem ancestors_ne_nil (limit : Nat) (hparent : t.parent name ≠ "") (hheld : (t.get (t.parent name)).isSome)
    (h : t.ancestors name (limit + 1) = (above, false)) : above ≠ [] := by
  unfold ancestors walk at h
  rw [if_neg hparent] at h
  split_ifs at h with hname hend
  · cases h
  · rw [← Option.not_isSome, hheld] at hend
    simp at hend
  · have hlen := walk_length t name limit ([] ++ [t.parent name]) (t.parent (t.parent name))
    rw [h] at hlen
    exact List.length_pos_iff.1 hlen

/-- What was met is what is above `name`, and `parent` is next. -/
structure Met (t : Tree) (name : String) (met : List String) (parent : String) : Prop where
  climb : ∀ i < met.length, climb t.up (i + 1) name = met[i]?
  next : Lib.climb t.up (met.length + 1) name = if parent = "" then none else some parent
  ne : name ∉ met

theorem Met.start (t : Tree) (name : String) : Met t name [] (t.parent name) where
  climb i hi := absurd hi (Nat.not_lt_zero i)
  next := climb_one name
  ne := List.not_mem_nil

theorem Met.push {name parent : String} (h : Met t name met parent) (hempty : parent ≠ "") (hname : parent ≠ name) :
    Met t name (met ++ [parent]) (t.parent parent) where
  climb i hi := by
    rw [List.length_append, List.length_singleton] at hi
    rcases Nat.lt_succ_iff_lt_or_eq.1 hi with hi | rfl
    · rw [h.climb i hi, List.getElem?_append_left hi]
    · rw [h.next, if_neg hempty, List.getElem?_concat_length]
  next := by
    rw [List.length_append, List.length_singleton, climb_add, h.next, if_neg hempty, Option.bind_some, climb_one]
    rfl
  ne := by simp [h.ne, Ne.symm hname]

theorem Met.not_isNone (hheld : ∀ a b, t.up a = some b → (t.get b).isSome) {name parent : String}
    (h : Met t name met parent) (hempty : parent ≠ "") : (t.get parent).isNone = false := by
  have hnext := h.next
  rw [if_neg hempty, climb_add, Option.bind_eq_some_iff] at hnext
  obtain ⟨b, -, hb⟩ := hnext
  rw [climb_one] at hb
  rw [← Option.not_isSome, hheld b parent hb]
  rfl

theorem Met.not_mem {name parent : String} {n : Nat} (hold : ∀ a, Lib.climb up₀ n a = none)
    (hoff : ∀ a, a ≠ name → t.up a = up₀ a) (h : Met t name met parent) (hempty : parent ≠ "") : parent ∉ met := by
  intro hmem
  obtain ⟨i, hi, hparent⟩ := List.getElem_of_mem hmem
  have hfirst : Lib.climb t.up (i + 1) name = some parent := by
    rw [h.climb i hi, List.getElem?_eq_getElem hi, hparent]
  have hfrom : ∀ k, Lib.climb t.up (i + 1 + k) name = Lib.climb t.up k parent := by
    intro k
    rw [climb_add, hfirst, Option.bind_some]
  have hloop : Lib.climb t.up (met.length - i) parent = some parent := by
    rw [← hfrom, show i + 1 + (met.length - i) = met.length + 1 by omega, h.next, if_neg hempty]
  have havoids : ∀ k < met.length - i, Lib.climb t.up k parent ≠ some name := by
    intro k hk hback
    rw [← hfrom, show i + 1 + k = i + k + 1 by omega, h.climb (i + k) (by omega)] at hback
    exact h.ne (List.mem_of_getElem? hback)
  rw [climb_congr hoff havoids] at hloop
  exact no_loop_of_climb (by omega) (hold parent) hloop

theorem walk_above {n : Nat} (hold : ∀ a, Lib.climb up₀ n a = none) (hoff : ∀ a, a ≠ name → t.up a = up₀ a)
    (hheld : ∀ a b, t.up a = some b → (t.get b).isSome) {limit : Nat} {parent : String} (hmet : Met t name met parent)
    (hwalk : t.walk name limit met parent = (above, false)) (hlimit : above.length < met.length + limit) :
    Lib.climb t.up (above.length + 1) name = none := by
  induction limit generalizing met parent with
  | zero =>
    cases hwalk
    omega
  | succ limit ih =>
    unfold walk at hwalk
    split_ifs at hwalk with hempty hname hend
    · cases hwalk
      rw [hmet.next, if_pos hempty]
    · cases hwalk
    · rcases hend with hnone | hmem
      · rw [hmet.not_isNone hheld hempty] at hnone
        cases hnone
      · exact absurd hmem (hmet.not_mem hold hoff hempty)
    · refine ih (hmet.push hempty hname) hwalk ?_
      rw [List.length_append, List.length_singleton]
      omega

/-! ## The levels below -/

theorem mem_seen_visit (child x : String) : x ∈ (visit acc child).1 ↔ x ∈ acc.1 ∨ x = child := by
  unfold visit
  split_ifs with hseen
  · constructor
    · exact .inl
    · rintro (h | rfl)
      · exact h
      · exact hseen
  · rw [List.mem_cons, or_comm]

theorem mem_seen_visits : x ∈ (l.foldl visit acc).1 ↔ x ∈ acc.1 ∨ x ∈ l := by
  induction l generalizing acc with
  | nil => simp
  | cons child l ih => rw [List.foldl_cons, ih, mem_seen_visit, List.mem_cons, or_assoc]

theorem next_subset_visits (h : x ∈ acc.2) : x ∈ (l.foldl visit acc).2 := by
  induction l generalizing acc with
  | nil => exact h
  | cons child l ih =>
    refine ih _ ?_
    unfold visit
    split_ifs
    · exact h
    · exact List.mem_append_left _ h

theorem mem_next_visits (h : x ∈ (l.foldl visit acc).1) : x ∈ acc.1 ∨ x ∈ (l.foldl visit acc).2 := by
  induction l generalizing acc with
  | nil => exact .inl h
  | cons child l ih =>
    rcases ih (visit acc child) h with hseen | hnext
    · rcases (mem_seen_visit acc child x).1 hseen with h | rfl
      · exact .inl h
      · by_cases hold : x ∈ acc.1
        · exact .inl hold
        · refine .inr (next_subset_visits l _ x ?_)
          simp [visit, hold]
    · exact .inr hnext

theorem mem_visits_next (h : x ∈ (l.foldl visit acc).2) : x ∈ acc.2 ∨ x ∈ l := by
  induction l generalizing acc with
  | nil => exact .inl h
  | cons child l ih =>
    rcases ih (visit acc child) h with hnext | hl
    · unfold visit at hnext
      split_ifs at hnext
      · exact .inl hnext
      · rcases List.mem_append.1 hnext with h | h
        · exact .inl h
        · exact .inr (by simp [List.mem_singleton.1 h])
    · exact .inr (List.mem_cons_of_mem _ hl)

/-- What the search has seen `j` steps below `name`. -/
structure Levels (t : Tree) (name : String) (j : Nat) (seen level : List String) : Prop where
  start : name ∈ seen
  ne : ∀ x ∈ seen, x ≠ ""
  level_seen : ∀ x ∈ level, x ∈ seen
  level_climb : ∀ x ∈ level, climb t.up j x = some name
  seen_climb : ∀ x ∈ seen, x ∈ level ∨ ∃ i < j, climb t.up i x = some name
  closed : ∀ p ∈ seen, p ∉ level → ∀ x, t.up x = some p → x ∈ seen

theorem Levels.first (hname : name ≠ "") : Levels t name 0 [name] [name] where
  start := List.mem_singleton_self name
  ne _ hx := List.mem_singleton.1 hx ▸ hname
  level_seen _ hx := hx
  level_climb _ hx := congrArg some (List.mem_singleton.1 hx)
  seen_climb _ hx := .inl hx
  closed _ hp hnot := absurd hp hnot

theorem Levels.next (hkeys : ∀ entry ∈ t.items, entry.1 ≠ "") {j : Nat} {seen level : List String}
    (h : Levels t name j seen level) : Levels t name (j + 1) (t.nextLevel seen level).1 (t.nextLevel seen level).2 := by
  have hseen : ∀ x, x ∈ (t.nextLevel seen level).1 ↔ x ∈ seen ∨ x ∈ level.flatMap t.children :=
    mem_seen_visits _ _
  have hchild : ∀ x ∈ level.flatMap t.children, ∃ p ∈ level, t.up x = some p := by
    intro x hx
    obtain ⟨p, hp, hx⟩ := List.mem_flatMap.1 hx
    exact ⟨p, hp, (t.mem_children_iff (h.ne p (h.level_seen p hp)) x).1 hx⟩
  have hnext : ∀ x ∈ (t.nextLevel seen level).2, x ∈ level.flatMap t.children := by
    intro x hx
    rcases mem_visits_next _ _ x hx with h | h
    · exact absurd h List.not_mem_nil
    · exact h
  refine ⟨(hseen name).2 (.inl h.start), ?_, fun x hx => (hseen x).2 (.inr (hnext x hx)), ?_, ?_, ?_⟩
  · intro x hx
    rcases (hseen x).1 hx with hx | hx
    · exact h.ne x hx
    · obtain ⟨p, -, hup⟩ := hchild x hx
      exact hkeys _ (Store.get_mem ((t.up_eq_some_iff x p).1 hup).1)
  · intro x hx
    obtain ⟨p, hp, hup⟩ := hchild x (hnext x hx)
    rw [climb_succ hup]
    exact h.level_climb p hp
  · intro x hx
    rcases mem_next_visits _ _ x hx with hx | hx
    · right
      rcases h.seen_climb x hx with hlevel | ⟨i, hi, hclimb⟩
      · exact ⟨j, Nat.lt_succ_self j, h.level_climb x hlevel⟩
      · exact ⟨i, by omega, hclimb⟩
    · exact .inl hx
  · intro p hp hnot x hup
    rcases mem_next_visits _ _ p hp with hp | hp
    · by_cases hlevel : p ∈ level
      · refine (hseen x).2 (.inr (List.mem_flatMap.2 ⟨p, hlevel, ?_⟩))
        exact (t.mem_children_iff (h.ne p hp) x).2 hup
      · exact (hseen x).2 (.inl (h.closed p hp hlevel x hup))
    · exact absurd hp hnot

theorem Levels.mem_of_climb {j k : Nat} {seen : List String} {a : String} (h : Levels t name j seen [])
    (hk : climb t.up k a = some name) : a ∈ seen := by
  induction k generalizing a with
  | zero => exact Option.some.inj hk ▸ h.start
  | succ k ih =>
    rw [climb, Option.bind_eq_some_iff] at hk
    obtain ⟨b, hup, hk⟩ := hk
    exact h.closed b (ih hk) List.not_mem_nil a hup

theorem levels_below (hkeys : ∀ entry ∈ t.items, entry.1 ≠ "") {limit j : Nat} {seen level : List String}
    (h : Levels t name j seen level) (hlimit : t.levels limit seen level < limit) {k : Nat} {a : String}
    (hk : climb t.up k a = some name) : ∃ i < j + t.levels limit seen level, climb t.up i a = some name := by
  induction limit generalizing j seen level with
  | zero => exact absurd hlimit (Nat.not_lt_zero _)
  | succ limit ih =>
    by_cases hempty : level = []
    · subst hempty
      rcases h.seen_climb a (h.mem_of_climb hk) with hlevel | ⟨i, hi, hclimb⟩
      · exact absurd hlevel List.not_mem_nil
      · exact ⟨i, by simpa [levels] using hi, hclimb⟩
    · simp only [levels, hempty, if_false] at hlimit ⊢
      obtain ⟨i, hi, hclimb⟩ := ih (h.next hkeys) (by omega)
      exact ⟨i, by omega, hclimb⟩

theorem height_below (hname : name ≠ "") (hkeys : ∀ entry ∈ t.items, entry.1 ≠ "") {limit m : Nat}
    (hlimit : t.height name limit < limit) (habove : climb t.up m name = none) {k : Nat} {a : String}
    (hk : climb t.up k a = some name) : k < t.height name limit := by
  obtain ⟨i, hi, hclimb⟩ := levels_below hkeys (.first hname) hlimit hk
  rw [Nat.zero_add] at hi
  by_contra hle
  have hloop : climb t.up (k - i) name = some name := by
    rw [show k = i + (k - i) by unfold height at hle; omega, climb_add, hclimb, Option.bind_some] at hk
    exact hk
  exact no_loop_of_climb (by unfold height at hle; omega) habove hloop

/-- With a checked new parent the tree stays within the limit. -/
theorem within_limit (hname : name ≠ "") (hkeys : ∀ entry ∈ t.items, entry.1 ≠ "")
    (hheld : ∀ a b, t.up a = some b → (t.get b).isSome) {limit : Nat} (hold : ∀ a, climb up₀ limit a = none)
    (hoff : ∀ a, a ≠ name → t.up a = up₀ a) (hanc : t.ancestors name limit = (above, false)) (hpos : above ≠ [])
    (hsum : above.length + t.height name limit ≤ limit) (a : String) : climb t.up limit a = none := by
  have hlen : 0 < above.length := List.length_pos_iff.2 hpos
  have hself : 0 < t.height name limit := by
    obtain ⟨n, rfl⟩ := Nat.exists_eq_succ_of_ne_zero (n := limit) (by omega)
    simp [height, levels]
  have habove : climb t.up (above.length + 1) name = none :=
    walk_above hold hoff hheld (.start t name) hanc (by simp only [List.length_nil]; omega)
  have hbelow : ∀ a k, climb t.up k a = some name → k < t.height name limit :=
    fun a k hk => height_below hname hkeys (by omega) habove hk
  exact climb_update hold hoff habove hbelow (by omega) a

end Tree

end Krm.Departments
