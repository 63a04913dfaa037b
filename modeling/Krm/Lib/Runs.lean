import Mathlib.Data.List.Basic

/-! # Computations that may fail, loops over a list and runs of a step function -/

namespace Krm.Lib

variable {ε α β : Type}

theorem bind_ok {x : Except ε α} {f : α → Except ε β} {b : β} (h : (x >>= f) = .ok b) :
    ∃ a, x = .ok a ∧ f a = .ok b := by
  cases x with
  | error e => cases h
  | ok a => exact ⟨a, rfl, h⟩

theorem bind_error {x : Except ε α} {f : α → Except ε β} {e : ε} (h : (x >>= f) = .error e) :
    x = .error e ∨ ∃ a, x = .ok a ∧ f a = .error e := by
  cases x with
  | error e' => exact .inl (congrArg _ (Except.error.inj h))
  | ok a => exact .inr ⟨a, rfl, h⟩

theorem map_ok {x : Except ε α} {f : α → β} {b : β} (h : x.map f = .ok b) : ∃ a, x = .ok a ∧ f a = b := by
  cases x with
  | error e => cases h
  | ok a => exact ⟨a, rfl, Except.ok.inj h⟩

theorem mapError_ok {ε ε' α : Type} {f : ε → ε'} {x : Except ε α} {a : α} (h : x.mapError f = .ok a) : x = .ok a := by
  cases x with
  | error e => cases h
  | ok a' => rw [Except.ok.inj h]

/-- The value, or an error if there is none. -/
def found {ε α : Type} (e : ε) : Option α → Except ε α
  | some a => .ok a
  | none => .error e

theorem found_ok {ε α : Type} {e : ε} {x : Option α} {a : α} (h : found e x = .ok a) : x = some a := by
  cases x with
  | none => cases h
  | some b => exact congrArg some (Except.ok.inj h)

def refuseIf {ε : Type} (condition : Bool) (e : ε) : Except ε Unit := if condition then .error e else .ok ()

theorem refuseIf_ok {ε : Type} {condition : Bool} {e : ε} {u : Unit} (h : refuseIf condition e = .ok u) :
    condition = false := by
  unfold refuseIf at h
  split_ifs at h with hcondition
  simpa using hcondition

theorem refuseIf_error {ε : Type} {condition : Bool} {e e' : ε} (h : refuseIf condition e = .error e') : e' = e := by
  unfold refuseIf at h
  split_ifs at h
  exact (Except.error.inj h).symm

/-- No call fails with what the store would have answered. -/
def Truthful {ι ε : Type} (tells : ι → ε → Bool) (fault : ι → Option ε) : Prop :=
  ∀ place e, fault place = some e → tells place e = false

theorem truthful_none {ι ε : Type} (tells : ι → ε → Bool) : Truthful tells fun _ => none := nofun

theorem mapM_ok {f : α → Except ε β} {l : List α} {bs : List β} (h : l.mapM f = .ok bs) :
    (∀ a ∈ l, ∃ b ∈ bs, f a = .ok b) ∧ ∀ b ∈ bs, ∃ a ∈ l, f a = .ok b := by
  induction l generalizing bs with
  | nil =>
    cases h
    exact ⟨nofun, nofun⟩
  | cons a l ih =>
    rw [List.mapM_cons] at h
    obtain ⟨first, hfirst, h⟩ := bind_ok h
    obtain ⟨others, hothers, h⟩ := bind_ok h
    cases h
    obtain ⟨hyields, hyielded⟩ := ih hothers
    constructor
    · rw [List.forall_mem_cons]
      refine ⟨⟨first, List.mem_cons_self, hfirst⟩, fun a ha => ?_⟩
      obtain ⟨b, hb, hfb⟩ := hyields a ha
      exact ⟨b, List.mem_cons_of_mem _ hb, hfb⟩
    · rw [List.forall_mem_cons]
      refine ⟨⟨a, List.mem_cons_self, hfirst⟩, fun b hb => ?_⟩
      obtain ⟨a, ha, hfb⟩ := hyielded b hb
      exact ⟨a, List.mem_cons_of_mem _ ha, hfb⟩

/-- What the first computation yields, the second yields too. -/
def Within {ε α : Type} (x y : Except ε α) : Prop := ∀ a, x = .ok a → y = .ok a

theorem Within.refl {ε α : Type} (x : Except ε α) : Within x x := fun _ h => h

theorem Within.bind {x y : Except ε α} {f g : α → Except ε β} (h : Within x y) (hf : ∀ a, Within (f a) (g a)) :
    Within (x >>= f) (y >>= g) := by
  intro b hb
  obtain ⟨a, ha, hb⟩ := bind_ok hb
  rw [h a ha]
  exact hf a b hb

section Loop

variable {α β : Type}

/-- A loop over a list, with the index at hand, after its first `i` turns. -/
def loopTo (f : β → α × Nat → β) (b : β) (l : List α) (i : Nat) : β := (l.zipIdx.take i).foldl f b

variable {l : List α} (f : β → α × Nat → β)

theorem loopTo_succ (b : β) {i : Nat} {a : α} (h : l[i]? = some a) :
    loopTo f b l (i + 1) = f (loopTo f b l i) (a, i) := by
  have hi : l.zipIdx[i]? = some (a, i) := by simp [h]
  rw [loopTo, loopTo, List.take_add_one, hi, List.foldl_append]
  rfl

theorem loopTo_length (b : β) (l : List α) : loopTo f b l l.length = l.zipIdx.foldl f b := by
  rw [loopTo, List.take_of_length_le (by simp)]

theorem exists_turn_succ {f : Nat → Option β} {i : Nat} {b : β} (hi : f i = some b) (r : β) :
    (∃ j < i + 1, f j = some r) ↔ r = b ∨ ∃ j < i, f j = some r := by
  constructor
  · rintro ⟨j, hj, hr⟩
    rcases Nat.lt_succ_iff_lt_or_eq.1 hj with hlt | rfl
    · exact .inr ⟨j, hlt, hr⟩
    · exact .inl (Option.some.inj (hr.symm.trans hi))
  · rintro (rfl | ⟨j, hj, hr⟩)
    · exact ⟨i, by omega, hi⟩
    · exact ⟨j, by omega, hr⟩

theorem loopTo_of_length {f : β → α × Nat → β} {b : β} {P : β → Prop} (hback : ∀ c a i, P (f c (a, i)) → P c)
    (h : P (loopTo f b l l.length)) (i : Nat) (hi : i ≤ l.length) : P (loopTo f b l i) := by
  obtain ⟨k, hk⟩ : ∃ k, l.length = i + k := ⟨l.length - i, by omega⟩
  induction k generalizing i with
  | zero => rwa [hk] at h
  | succ k ih =>
    obtain ⟨a, ha⟩ : ∃ a, l[i]? = some a := ⟨l[i], List.getElem?_eq_getElem (by omega)⟩
    have hnext := ih (i + 1) (by omega) (by omega)
    rw [loopTo_succ f b ha] at hnext
    exact hback _ _ _ hnext

end Loop

/-! ## Runs -/

section Run

variable {σ ε : Type} (step : σ → ε → σ)

def run (s : σ) (events : List ε) : σ := events.foldl step s

/-- Every step of the run is taken in a state where it is allowed. -/
def Along (allowed : σ → ε → Prop) : σ → List ε → Prop
  | _, [] => True
  | s, e :: events => allowed s e ∧ Along allowed (step s e) events

instance Along.decidable (allowed : σ → ε → Prop) [∀ s e, Decidable (allowed s e)] :
    ∀ s events, Decidable (Along step allowed s events)
  | _, [] => .isTrue trivial
  | s, e :: events =>
    haveI := Along.decidable allowed (step s e) events
    inferInstanceAs (Decidable (allowed s e ∧ Along step allowed (step s e) events))

variable {step}

theorem Along.congr {p q : σ → ε → Prop} (h : ∀ s e, p s e ↔ q s e) (s : σ) (events : List ε) :
    Along step p s events ↔ Along step q s events := by
  induction events generalizing s with
  | nil => exact Iff.rfl
  | cons e events ih => exact and_congr (h s e) (ih (step s e))

variable {events : List ε} {P : σ → Prop}

theorem Along.congr_allowed {allowed p q : σ → ε → Prop} (h : ∀ s e, allowed s e → (p s e ↔ q s e)) {s : σ}
    (hallowed : Along step allowed s events) : Along step p s events ↔ Along step q s events := by
  induction events generalizing s with
  | nil => exact Iff.rfl
  | cons e events ih => exact and_congr (h s e hallowed.1) (ih hallowed.2)

theorem Along.of_invariant {q : σ → ε → Prop} (hstep : ∀ s, ∀ e ∈ events, P s → P (step s e))
    (h : ∀ s, ∀ e ∈ events, P s → q s e) {s : σ} (h₀ : P s) : Along step q s events := by
  induction events generalizing s with
  | nil => trivial
  | cons e events ih =>
    refine ⟨h s e List.mem_cons_self h₀, ih (fun t e' he' => hstep t e' (List.mem_cons_of_mem _ he'))
      (fun t e' he' => h t e' (List.mem_cons_of_mem _ he')) (hstep s e List.mem_cons_self h₀)⟩

theorem Along.congr_invariant {p q : σ → ε → Prop} (hstep : ∀ s, ∀ e ∈ events, P s → p s e → P (step s e))
    (h : ∀ s, ∀ e ∈ events, P s → (p s e ↔ q s e)) {s : σ} (h₀ : P s) :
    Along step p s events ↔ Along step q s events := by
  induction events generalizing s with
  | nil => exact Iff.rfl
  | cons e events ih =>
    have htail : ∀ t, P t → (Along step p t events ↔ Along step q t events) := fun t ht =>
      ih (fun u e' he' => hstep u e' (List.mem_cons_of_mem _ he'))
        (fun u e' he' => h u e' (List.mem_cons_of_mem _ he')) ht
    have hhead := h s e List.mem_cons_self h₀
    constructor
    · rintro ⟨he, hevents⟩
      exact ⟨hhead.1 he, (htail _ (hstep s e List.mem_cons_self h₀ he)).1 hevents⟩
    · rintro ⟨he, hevents⟩
      have he' := hhead.2 he
      exact ⟨he', (htail _ (hstep s e List.mem_cons_self h₀ he')).2 hevents⟩

/-- An invariant of every allowed step holds after the run. -/
theorem run_invariant {allowed : σ → ε → Prop} (hstep : ∀ s e, P s → allowed s e → P (step s e)) {s : σ} (h₀ : P s)
    (h : Along step allowed s events) : P (run step s events) := by
  induction events generalizing s with
  | nil => exact h₀
  | cons e events ih => exact ih (hstep s e h₀ h.1) h.2

end Run

end Krm.Lib
