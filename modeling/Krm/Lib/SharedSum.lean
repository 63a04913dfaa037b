import Mathlib.Algebra.BigOperators.Group.List.Basic
import Mathlib.Algebra.Ring.Int.Defs
import Mathlib.Data.List.Induction
import Mathlib.Data.List.ReduceOption

/-! # Sums that are accumulated in place

A number may be held behind a pointer, which every copy of it shares. A sum that starts as a copy of such a number
is accumulated in the number itself. -/

namespace Krm.Lib

structure Number where
  amount : Int
  /-- Held behind a pointer. -/
  boxed : Bool
deriving DecidableEq, Repr

def Number.add (n : Number) (amount : Int) : Number := { n with amount := n.amount + amount }

/-- A number of its own, or the pointer of the number at a place. -/
inductive Accumulator where
  | own (amount : Int)
  | shared (place : Nat)
deriving DecidableEq, Repr

namespace Accumulator

/-- A copy of the number at a place, as a sum begins with it. -/
def copy (place : Nat) (n : Number) : Accumulator := if n.boxed then shared place else own n.amount

def value (numbers : List (Option Number)) : Accumulator → Int
  | own amount => amount
  | shared place => ((numbers[place]?.join).map Number.amount).getD 0

/-- The number at a place is added to the sum, or begins it. -/
def add (place : Nat) (s : List (Option Number) × Option Accumulator) (n : Number) :
    List (Option Number) × Option Accumulator :=
  match s.2 with
  | some (own amount) => (s.1, some (own (amount + n.amount)))
  | some (shared owner) => (s.1.modify owner (Option.map (·.add n.amount)), s.2)
  | none => (s.1, some (copy place n))

def visit (s : List (Option Number) × Option Accumulator) (place : Nat) :
    List (Option Number) × Option Accumulator :=
  match s.1[place]?.join with
  | some n => add place s n
  | none => s

def sumInPlace (numbers : List (Option Number)) : List (Option Number) × Option Accumulator :=
  (List.range numbers.length).foldl visit (numbers, none)

end Accumulator

namespace Number

def total (numbers : List (Option Number)) : Int := (numbers.reduceOption.map amount).sum

/-- What the first number gains when the sum of all is accumulated in it. -/
def gain (numbers : List (Option Number)) : Int :=
  match numbers.reduceOption with
  | n :: rest => if n.boxed then (rest.map amount).sum else 0
  | [] => 0

theorem total_append (l l' : List (Option Number)) : total (l ++ l') = total l + total l' := by
  unfold total
  rw [List.reduceOption_append, List.map_append, List.sum_append]

@[simp]
theorem total_nil : total [] = 0 := rfl

@[simp]
theorem total_cons_some (n : Number) (l : List (Option Number)) : total (some n :: l) = n.amount + total l := by
  simp [total, List.reduceOption_cons_of_some]

end Number

namespace Accumulator

open Number

/-- The numbers after the first `done` of them were summed, and the sum. -/
inductive Summed (done : List (Option Number)) : List (Option Number) → Option Accumulator → Prop where
  | none (h : done.reduceOption = []) : Summed done done none
  | own {n : Number} {rest : List Number} (h : done.reduceOption = n :: rest) (hboxed : n.boxed = false) :
    Summed done done (some (own (total done)))
  | shared {n m : Number} {rest : List Number} {before after : List (Option Number)}
    (h : done.reduceOption = n :: rest) (hboxed : n.boxed = true) (hamount : m.amount = total done)
    (hgain : total (before ++ some m :: after) = total done + gain done)
    (hsome : (before ++ some m :: after).map Option.isSome = done.map Option.isSome) :
    Summed done (before ++ some m :: after) (some (shared before.length))

namespace Summed

variable {done after : List (Option Number)} {acc : Option Accumulator}

theorem isSome_eq (h : Summed done after acc) : after.map Option.isSome = done.map Option.isSome := by
  cases h with
  | none h => rfl
  | own h hboxed => rfl
  | shared h hboxed hamount hgain hsome => exact hsome

theorem length_eq (h : Summed done after acc) : after.length = done.length := by
  simpa using congrArg List.length h.isSome_eq

theorem total_eq (h : Summed done after acc) : total after = total done + gain done := by
  cases h with
  | none h => simp [gain, h]
  | own h hboxed => simp [gain, h, hboxed]
  | shared h hboxed hamount hgain hsome => exact hgain

theorem value_eq (h : Summed done after acc) :
    acc.map (value after) = if done.reduceOption = [] then Option.none else some (total done) := by
  cases h with
  | none h => rw [if_pos h, Option.map_none]
  | own h hboxed =>
    rw [if_neg (by rw [h]; exact List.cons_ne_nil _ _)]
    rfl
  | shared h hboxed hamount hgain hsome =>
    rw [if_neg (by rw [h]; exact List.cons_ne_nil _ _), ← hamount]
    simp [value]

end Summed

theorem modify_at_length (before after : List (Option Number)) (n : Number) (f : Number → Number) :
    (before ++ some n :: after).modify before.length (Option.map f) = before ++ some (f n) :: after := by
  simp [List.modify_eq_take_drop]

theorem Summed.skip {done after : List (Option Number)} {acc : Option Accumulator} (h : Summed done after acc) :
    Summed (done ++ [Option.none]) (after ++ [Option.none]) acc := by
  have hreduce : (done ++ [Option.none]).reduceOption = done.reduceOption := by
    rw [List.reduceOption_append]
    exact List.append_nil _
  have htotal : ∀ l : List (Option Number), total (l ++ [Option.none]) = total l := by
    intro l
    rw [total_append]
    exact add_zero _
  cases h with
  | none h => exact .none (hreduce.trans h)
  | own h hboxed =>
    rw [← htotal done]
    exact .own (hreduce.trans h) hboxed
  | @shared n m rest before after h hboxed hamount hgain hsome =>
    rw [List.append_assoc, List.cons_append]
    refine .shared (hreduce.trans h) hboxed (by rw [htotal, hamount]) ?_ ?_
    · rw [← List.cons_append, ← List.append_assoc, htotal, htotal, hgain, gain, gain, hreduce]
    · simpa using congrArg (· ++ [false]) hsome

theorem Summed.add {done after : List (Option Number)} {acc : Option Accumulator} (h : Summed done after acc)
    (n : Number) (rest : List (Option Number)) :
    ∃ next, (add done.length (after ++ some n :: rest, acc) n).1 = next ++ rest ∧
      Summed (done ++ [some n]) next (add done.length (after ++ some n :: rest, acc) n).2 := by
  have hreduce : (done ++ [some n]).reduceOption = done.reduceOption ++ [n] := by
    rw [List.reduceOption_append]
    rfl
  have htotal : total (done ++ [some n]) = total done + n.amount := by simp [total_append]
  cases h with
  | none hnone =>
    refine ⟨done ++ [some n], by simp [Accumulator.add], ?_⟩
    rw [hnone, List.nil_append] at hreduce
    have hzero : total done = 0 := by simp [total, hnone]
    cases hboxed : n.boxed with
    | false =>
      have hown := Summed.own hreduce hboxed
      rw [htotal, hzero, zero_add] at hown
      simpa [Accumulator.add, copy, hboxed] using hown
    | true =>
      -- the copy keeps the pointer
      have hgain : gain (done ++ [some n]) = 0 := by simp [gain, hreduce]
      have hshared := Summed.shared hreduce hboxed (by rw [htotal, hzero, zero_add]) (by rw [hgain, add_zero]) rfl
      simpa [Accumulator.add, copy, hboxed] using hshared
  | own hfirst hboxed =>
    refine ⟨done ++ [some n], by simp [Accumulator.add], ?_⟩
    rw [hfirst] at hreduce
    have hown := Summed.own hreduce hboxed
    rw [htotal] at hown
    exact hown
  | @shared first m others before after hfirst hboxed hamount hgain hsome =>
    refine ⟨before ++ some (m.add n.amount) :: (after ++ [some n]), ?_, ?_⟩
    · simp only [Accumulator.add, List.append_assoc, List.cons_append, modify_at_length, List.nil_append]
    · rw [hfirst, List.cons_append] at hreduce
      have hgainNext : gain (done ++ [some n]) = gain done + n.amount := by simp [gain, hreduce, hfirst, hboxed]
      refine .shared hreduce hboxed (by rw [htotal, ← hamount]; rfl) ?_ ?_
      · rw [htotal, hgainNext]
        simp only [total_append, total_cons_some, total_nil, Number.add] at hgain ⊢
        omega
      · simpa using congrArg (· ++ [true]) hsome

theorem summed_foldl (done rest : List (Option Number)) :
    ∃ after, ((List.range done.length).foldl visit (done ++ rest, none)).1 = after ++ rest ∧
      Summed done after ((List.range done.length).foldl visit (done ++ rest, none)).2 := by
  -- The numbers that were visited are a prefix; what comes after it has not changed yet.
  induction done using List.reverseRecOn generalizing rest with
  | nil => exact ⟨[], rfl, .none rfl⟩
  | append_singleton done c ih =>
    obtain ⟨after, hafter, hsummed⟩ := ih (c :: rest)
    rw [List.length_append, List.length_singleton, List.range_succ, List.foldl_append, List.append_assoc,
      List.singleton_append, List.foldl_cons, List.foldl_nil]
    generalize (List.range done.length).foldl visit (done ++ c :: rest, none) = s at hafter hsummed ⊢
    obtain ⟨numbers, acc⟩ := s
    dsimp only at hafter hsummed
    subst hafter
    have hplace : (after ++ c :: rest)[done.length]? = some c := by
      rw [List.getElem?_append_right hsummed.length_eq.le, hsummed.length_eq]
      simp
    cases c with
    | some n =>
      have hvisit : visit (after ++ some n :: rest, acc) done.length =
          add done.length (after ++ some n :: rest, acc) n := by
        simp [visit, hplace]
      rw [hvisit]
      exact hsummed.add n rest
    | none =>
      have hvisit : visit (after ++ Option.none :: rest, acc) done.length = (after ++ Option.none :: rest, acc) := by
        simp [visit, hplace]
      rw [hvisit]
      exact ⟨after ++ [Option.none], by simp, hsummed.skip⟩

theorem summed_sumInPlace (numbers : List (Option Number)) :
    Summed numbers (sumInPlace numbers).1 (sumInPlace numbers).2 := by
  obtain ⟨after, hafter, hsummed⟩ := summed_foldl numbers []
  rw [List.append_nil, List.append_nil] at hafter
  rw [List.append_nil] at hsummed
  unfold sumInPlace
  rw [hafter]
  exact hsummed

end Accumulator

end Krm.Lib
