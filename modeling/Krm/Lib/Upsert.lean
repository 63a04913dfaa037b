import Mathlib.Data.List.Basic

/-! # Replacing the first of its kind in a list, or appending -/

namespace Krm.Lib

variable {α : Type}

/-- `a` in place of the first element with `p`, or at the end. -/
def upsert (p : α → Bool) (a : α) : List α → List α
  | [] => [a]
  | b :: l => if p b then a :: l else b :: upsert p a l

theorem find_upsert_self {p q : α → Bool} {a : α} {l : List α} (ha : q a) (h : ∀ b, l.find? q = some b → p b) :
    (upsert p a l).find? q = some a := by
  induction l with
  | nil => simp [upsert, ha]
  | cons b l ih =>
    rw [upsert]
    split_ifs with hb
    · simp [ha]
    · have hq : ¬ q b := fun hq => hb (h b (by simp [hq]))
      rw [List.find?_cons_of_neg hq]
      exact ih fun b' hb' => h b' (by rw [List.find?_cons_of_neg hq]; exact hb')

theorem find_upsert_of_not {p q : α → Bool} {a : α} (l : List α) (ha : ¬ q a) (h : ∀ b, p b → ¬ q b) :
    (upsert p a l).find? q = l.find? q := by
  induction l with
  | nil => simp [upsert, ha]
  | cons b l ih =>
    rw [upsert]
    split_ifs with hb
    · rw [List.find?_cons_of_neg ha, List.find?_cons_of_neg (h b hb)]
    · rw [List.find?_cons, List.find?_cons, ih]

end Krm.Lib
