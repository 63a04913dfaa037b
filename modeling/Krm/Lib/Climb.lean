import Krm.Lib.Graph
import Mathlib.Data.List.Chain

/-! # Forests given by a parent function -/

namespace Krm.Lib

open Relation

variable {α : Type} {up up' : α → Option α}

/-- The ancestor `n` steps up, if there are so many. -/
def climb (up : α → Option α) : Nat → α → Option α
  | 0, a => some a
  | n + 1, a => (up a).bind (climb up n)

theorem climb_succ {a b : α} (h : up a = some b) (n : Nat) : climb up (n + 1) a = climb up n b := by
  rw [climb, h, Option.bind_some]

theorem climb_one (a : α) : climb up 1 a = up a := by
  simp [climb]

theorem climb_add (m n : Nat) (a : α) : climb up (m + n) a = (climb up m a).bind (climb up n) := by
  induction m generalizing a with
  | zero => simp [climb]
  | succ m ih =>
    rw [Nat.add_right_comm, climb, climb]
    cases up a with
    | none => rfl
    | some b => exact ih b

theorem climb_none_mono {m n : Nat} {a : α} (h : climb up m a = none) (hle : m ≤ n) : climb up n a = none := by
  obtain ⟨k, rfl⟩ := Nat.exists_eq_add_of_le hle
  rw [climb_add, h, Option.bind_none]

theorem climb_loop {k : Nat} {a : α} (h : climb up k a = some a) (n : Nat) : climb up (k * n) a = some a := by
  induction n with
  | zero => rfl
  | succ n ih => rw [Nat.mul_succ, climb_add, ih, Option.bind_some, h]

theorem no_loop_of_climb {k n : Nat} {a : α} (hk : 0 < k) (hn : climb up n a = none) : climb up k a ≠ some a := by
  intro hloop
  have hfar := climb_none_mono hn (Nat.le_mul_of_pos_left n hk)
  rw [climb_loop hloop n] at hfar
  cases hfar

theorem climb_mono (h : ∀ a b, up' a = some b → up a = some b) {n : Nat} {a b : α} (hc : climb up' n a = some b) :
    climb up n a = some b := by
  induction n generalizing a with
  | zero => exact hc
  | succ n ih =>
    rw [climb, Option.bind_eq_some_iff] at hc
    obtain ⟨d, hd, hc⟩ := hc
    rw [climb_succ (h a d hd)]
    exact ih hc

theorem climb_none_of_le (h : ∀ a b, up' a = some b → up a = some b) {n : Nat} {a : α} (hc : climb up n a = none) :
    climb up' n a = none := by
  rw [Option.eq_none_iff_forall_ne_some] at hc ⊢
  exact fun b hb => hc b (climb_mono h hb)

theorem climb_congr {d : α} (hoff : ∀ a, a ≠ d → up' a = up a) {n : Nat} {a : α}
    (hnot : ∀ k < n, climb up' k a ≠ some d) : climb up' n a = climb up n a := by
  induction n generalizing a with
  | zero => rfl
  | succ n ih =>
    have hne : a ≠ d := fun h => hnot 0 (Nat.succ_pos n) (congrArg some h)
    rw [climb, climb, hoff a hne]
    cases hup : up a with
    | none => rfl
    | some b =>
      refine ih fun k hk => ?_
      rw [← climb_succ ((hoff a hne).trans hup)]
      exact hnot (k + 1) (by omega)

theorem climb_update {d : α} {m h n : Nat} (hold : ∀ a, climb up n a = none) (hoff : ∀ a, a ≠ d → up' a = up a)
    (habove : climb up' m d = none) (hbelow : ∀ a k, climb up' k a = some d → k < h) (hsum : m + h ≤ n + 1) (a : α) :
    climb up' n a = none := by
  by_cases hmeets : ∃ k < n, climb up' k a = some d
  · obtain ⟨k, hk, hd⟩ := hmeets
    have hsplit : climb up' n a = climb up' (n - k) d := by
      conv_lhs => rw [show n = k + (n - k) by omega]
      rw [climb_add, hd, Option.bind_some]
    have hlt := hbelow a k hd
    rw [hsplit]
    exact climb_none_mono habove (by omega)
  · push Not at hmeets
    rw [climb_congr hoff hmeets]
    exact hold a

/-! ## Loops and chains -/

def Above (up : α → Option α) (a b : α) : Prop := up a = some b

theorem climb_of_transGen {a b : α} (h : TransGen (Above up) a b) : ∃ k, 0 < k ∧ climb up k a = some b := by
  induction h with
  | single hab => exact ⟨1, Nat.one_pos, (climb_one a).trans hab⟩
  | tail _ hbc ih =>
    obtain ⟨k, hk, hclimb⟩ := ih
    exact ⟨k + 1, Nat.succ_pos k, by rw [climb_add, hclimb, Option.bind_some, climb_one, hbc]⟩

theorem loopFree_of_climb {n : Nat} (h : ∀ a, climb up n a = none) : LoopFree (Above up) := by
  intro a hloop
  obtain ⟨k, hk, hclimb⟩ := climb_of_transGen hloop
  exact no_loop_of_climb hk (h a) hclimb

theorem climb_of_isChain {a : α} {l : List α} (h : List.IsChain (Above up) (a :: l)) :
    (climb up l.length a).isSome := by
  induction l generalizing a with
  | nil => rfl
  | cons b l ih =>
    rw [List.isChain_cons_cons] at h
    rw [List.length_cons, climb_succ h.1]
    exact ih h.2

theorem length_le_of_climb {n : Nat} (h : ∀ a, climb up n a = none) {l : List α}
    (hchain : List.IsChain (Above up) l) : l.length ≤ n := by
  cases l with
  | nil => exact Nat.zero_le n
  | cons a l =>
    by_contra hlt
    have hsome := climb_of_isChain hchain
    rw [List.length_cons] at hlt
    rw [climb_none_mono (h a) (by omega)] at hsome
    cases hsome

end Krm.Lib
