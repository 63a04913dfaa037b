import Mathlib.Logic.Relation

/-! # Loops of a relation -/

namespace Krm.Lib

open Relation

variable {α : Type} {E E' : α → α → Prop}

def LoopFree (E : α → α → Prop) : Prop := ∀ a, ¬ TransGen E a a

theorem LoopFree.mono (h : LoopFree E) (hsub : ∀ a b, E' a b → E a b) : LoopFree E' :=
  fun a hloop => h a (TransGen.mono hsub a a hloop)

theorem transGen_add_edge {x y : α} (hsub : ∀ a b, E' a b → E a b ∨ (a = x ∧ b = y))
    (hback : ¬ ReflTransGen E y x) {a b : α} (h : TransGen E' a b) :
    TransGen E a b ∨ (ReflTransGen E a x ∧ ReflTransGen E y b) := by
  induction h with
  | single hab =>
    rcases hsub _ _ hab with hab | ⟨rfl, rfl⟩
    · exact .inl (.single hab)
    · exact .inr ⟨.refl, .refl⟩
  | tail _ hbc ih =>
    rcases hsub _ _ hbc with hbc | ⟨rfl, rfl⟩
    · rcases ih with hab | ⟨hax, hyb⟩
      · exact .inl (hab.tail hbc)
      · exact .inr ⟨hax, hyb.tail hbc⟩
    · rcases ih with hab | ⟨-, hyx⟩
      · exact .inr ⟨hab.to_reflTransGen, .refl⟩
      · exact absurd hyx hback

/-- A new edge from which no path leads back closes no loop. -/
theorem LoopFree.add_edge (h : LoopFree E) {x y : α} (hsub : ∀ a b, E' a b → E a b ∨ (a = x ∧ b = y))
    (hback : ¬ ReflTransGen E y x) : LoopFree E' := by
  intro a hloop
  rcases transGen_add_edge hsub hback hloop with haa | ⟨hax, hya⟩
  · exact h a haa
  · exact hback (hya.trans hax)

end Krm.Lib
