import Krm.Lib.Runs
import Krm.Lib.Store
import Mathlib.Logic.Relation

/-! # Steps that change one object of a store at a time -/

open Relation

namespace Krm.Lib

variable {α β κ : Type} [DecidableEq κ] {key : α → κ}

/-- One object takes a step of `R`, all the others stay. -/
def LocalStep (R : α → α → Prop) (s s' : Store key) : Prop :=
  ∃ a ∈ s.items, ∃ b, R a b ∧ s' = s.replace b

section

variable {R : α → α → Prop} (hkey : ∀ a b, R a b → key b = key a)
include hkey

omit [DecidableEq κ] in
theorem key_of_steps {a b : α} (h : ReflTransGen R a b) : key b = key a := by
  induction h with
  | refl => rfl
  | tail _ hstep ih => exact (hkey _ _ hstep).trans ih

theorem localSteps_replace {s : Store key} {a b : α} (ha : a ∈ s.items) (h : ReflTransGen R a b) :
    ReflTransGen (LocalStep R) s (s.replace b) := by
  induction h with
  | refl => rw [Store.replace_self ha]
  | tail hsteps hstep ih =>
    rename_i b d
    have hb : key b = key a := key_of_steps hkey hsteps
    have hd : key d = key b := hkey b d hstep
    refine ih.tail ⟨b, ?_, d, hstep, (Store.replace_replace s hd).symm⟩
    exact (Store.mem_replace s b b hb (by simp [Store.get_of_mem ha])).2 (.inl rfl)

theorem localSteps_foldl (stored : β → Store key) (acc : β) {f : β → α → β} {l : List α} (hnodup : (l.map key).Nodup)
    (hf : ∀ acc, ∀ a ∈ l, ∃ b, ReflTransGen R a b ∧ stored (f acc a) = (stored acc).replace b)
    (hmem : ∀ a ∈ l, a ∈ (stored acc).items) : ReflTransGen (LocalStep R) (stored acc) (stored (l.foldl f acc)) := by
  induction l generalizing acc with
  | nil => exact .refl
  | cons a l ih =>
    obtain ⟨b, hsteps, hb⟩ := hf acc a (by simp)
    have hkeyb : key b = key a := key_of_steps hkey hsteps
    rw [List.map_cons, List.nodup_cons] at hnodup
    have hfirst : ReflTransGen (LocalStep R) (stored acc) (stored (f acc a)) := by
      rw [hb]
      exact localSteps_replace hkey (hmem a (by simp)) hsteps
    refine hfirst.trans (ih _ hnodup.2 (fun acc' a' ha' => hf acc' a' (by simp [ha'])) ?_)
    intro a' ha'
    have hne : key a' ≠ key a := fun h => hnodup.1 (h ▸ List.mem_map_of_mem ha')
    rw [hb]
    exact (Store.mem_replace _ b a' hkeyb (by simp [Store.get_of_mem (hmem a (by simp))])).2
      (.inr ⟨hmem a' (by simp [ha']), hne⟩)

theorem foldl_frame (stored : β → Store key) (acc : β) {f : β → α → β} {l : List α}
    (hf : ∀ acc, ∀ a ∈ l, ∃ b, ReflTransGen R a b ∧ stored (f acc a) = (stored acc).replace b) {d : α}
    (hd : d ∈ (stored acc).items) (hne : key d ∉ l.map key) : d ∈ (stored (l.foldl f acc)).items := by
  induction l generalizing acc with
  | nil => exact hd
  | cons a l ih =>
    obtain ⟨b, hsteps, hb⟩ := hf acc a (by simp)
    have hkeyb : key b = key a := key_of_steps hkey hsteps
    rw [List.map_cons, List.mem_cons, not_or] at hne
    refine ih _ (fun acc' a' ha' => hf acc' a' (by simp [ha'])) ?_ hne.2
    have hget := (Store.agreeOff_replace (stored acc) b hkeyb).get_eq (by simpa using hne.1)
    rw [hb]
    exact Store.get_mem (hget.symm.trans (Store.get_of_mem hd))

theorem localSteps_get {P : α → Prop} (hP : ∀ a b, P a → R a b → P b) {s s' : Store key}
    (h : ReflTransGen (LocalStep R) s s') {k : κ} {a : α} (ha : s.get k = some a) (hPa : P a) :
    ∃ b, s'.get k = some b ∧ P b := by
  induction h with
  | refl => exact ⟨a, ha, hPa⟩
  | tail _ hstep ih =>
    obtain ⟨b, hb, hPb⟩ := ih
    obtain ⟨d, hd, e, hR, rfl⟩ := hstep
    have hkeye : key e = key d := hkey d e hR
    by_cases hk : key d = k
    · have hsame : d = b := Store.eq_of_mem hd (Store.get_mem hb) (hk.trans (Store.get_key hb).symm)
      subst hsame
      exact ⟨e, Store.get_replace_self _ e (hkeye.trans hk) (by simp [hb]), hP d e hPb hR⟩
    · refine ⟨b, ?_, hPb⟩
      rw [← hb]
      exact ((Store.agreeOff_replace _ e (hkeye)).get_eq (by simpa using Ne.symm hk)).symm

omit hkey in
theorem localSteps_keys {s s' : Store key} (h : ReflTransGen (LocalStep R) s s') :
    s'.items.map key = s.items.map key := by
  induction h with
  | refl => rfl
  | tail _ hstep ih =>
    obtain ⟨a, -, b, -, rfl⟩ := hstep
    exact (Store.keys_replace _ b).trans ih

end

theorem run_of_localSteps {σ ε : Type} {step : σ → ε → σ} {allowed : σ → ε → Prop} {R : α → α → Prop}
    (stored : σ → Store key) (I : σ → Prop)
    (hstep : ∀ s objects, I s → LocalStep R (stored s) objects →
      ∃ e, allowed s e ∧ stored (step s e) = objects ∧ I (step s e))
    {s : σ} (hI : I s) {objects : Store key} (h : ReflTransGen (LocalStep R) (stored s) objects) :
    ∃ events, Along step allowed s events ∧ stored (run step s events) = objects ∧ I (run step s events) := by
  generalize hstart : stored s = start at h
  induction h using ReflTransGen.head_induction_on generalizing s with
  | refl => exact ⟨[], trivial, hstart, hI⟩
  | head hfirst _ ih =>
    subst hstart
    obtain ⟨e, hallowed, hstored, hI'⟩ := hstep s _ hI hfirst
    obtain ⟨events, halong, hlast⟩ := ih hI' hstored
    exact ⟨e :: events, ⟨hallowed, halong⟩, hlast⟩

end Krm.Lib
