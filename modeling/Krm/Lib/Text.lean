import Mathlib.Data.List.Infix

/-! # Parts of a text -/

namespace Krm.Lib

section

variable {α : Type}

theorem intercalate_cons {sep : List α} (x : List α) (l : List (List α)) :
    sep.intercalate (x :: l) = x ++ l.flatMap (sep ++ ·) := by
  induction l generalizing x with
  | nil => simp
  | cons y l ih => rw [List.intercalate_cons_cons, ih, List.flatMap_cons, List.append_assoc, List.append_assoc]

variable {c : α} {p a b : List α}

/-- A part with the separator only at its end lies on one side of it, or ends with it. -/
theorem infix_snoc_append_cons_iff {d : α} (hc : c ∉ p) :
    (p ++ [d]).IsInfix (a ++ c :: b) ↔
      (p ++ [d]).IsInfix a ∨ (d = c ∧ p.IsSuffix a) ∨ (p ++ [d]).IsInfix b := by
  have hbefore : ∀ l₁ l₂, p ++ [d] = l₁ ++ l₂ → l₁.IsSuffix a → l₂.IsPrefix (c :: b) →
      (p ++ [d]).IsInfix a ∨ (d = c ∧ p.IsSuffix a) := by
    intro l₁ l₂ hsplit hsuffix hpre
    cases l₂ with
    | nil =>
      rw [List.append_nil] at hsplit
      exact .inl (hsplit ▸ hsuffix.isInfix)
    | cons x l₂ =>
      obtain ⟨rfl, -⟩ := List.cons_prefix_cons.1 hpre
      rcases List.append_eq_append_iff.1 hsplit with ⟨rest, rfl, hrest⟩ | ⟨rest, rfl, hrest⟩
      · cases rest with
        | nil =>
          cases hrest
          exact .inr ⟨rfl, by simpa using hsuffix⟩
        | cons y rest => simp at hrest
      · cases rest with
        | nil =>
          cases hrest
          exact .inr ⟨rfl, by simpa using hsuffix⟩
        | cons y rest =>
          cases hrest
          exact absurd (List.mem_append_right _ List.mem_cons_self) hc
  rw [List.infix_append_iff, List.infix_cons_iff]
  constructor
  · rintro (ha | (hpre | hb) | ⟨l₁, l₂, hsplit, hsuffix, hpre⟩)
    · exact .inl ha
    · exact (hbefore [] (p ++ [d]) rfl (List.nil_suffix) hpre).imp_right .inl
    · exact .inr (.inr hb)
    · exact (hbefore l₁ l₂ hsplit hsuffix hpre).imp_right .inl
  · rintro (ha | ⟨rfl, hsuffix⟩ | hb)
    · exact .inl ha
    · exact .inr (.inr ⟨p, [d], rfl, hsuffix, ⟨b, rfl⟩⟩)
    · exact .inr (.inl (.inr hb))

end

def contains (text part : String) : Bool := decide (part.toList.IsInfix text.toList)

theorem contains_iff {text part : String} : contains text part ↔ part.toList.IsInfix text.toList := decide_eq_true_iff

end Krm.Lib
