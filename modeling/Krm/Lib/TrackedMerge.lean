import Mathlib.Data.Finmap

/-! # Merging wanted entries into a map that others edit too

The owner of some of the entries records which keys it wrote. At the next merge it takes the recorded keys out, and
so tells what it wrote itself from what others put there. -/

namespace Krm.Lib

variable {κ ν : Type} [DecidableEq κ]

abbrev Entries (κ ν : Type) := Finmap fun _ : κ => ν

namespace Entries

instance : LeftCommutative (Finmap.erase : κ → Entries κ ν → Entries κ ν) := ⟨fun _ _ _ => Finmap.erase_erase⟩

def without (m : Entries κ ν) (keys : Finset κ) : Entries κ ν := keys.val.foldr Finmap.erase m

theorem lookup_foldr_erase (m : Entries κ ν) (keys : Multiset κ) (k : κ) :
    (keys.foldr Finmap.erase m).lookup k = if k ∈ keys then none else m.lookup k := by
  induction keys using Multiset.induction with
  | empty => simp
  | cons a keys ih =>
    rw [Multiset.foldr_cons]
    by_cases hk : k = a
    · subst hk
      simp
    · rw [Finmap.lookup_erase_ne hk, ih]
      simp [hk]

@[simp] theorem lookup_without (m : Entries κ ν) (keys : Finset κ) (k : κ) :
    (m.without keys).lookup k = if k ∈ keys then none else m.lookup k :=
  lookup_foldr_erase m keys.val k

theorem lookup_union (m m' : Entries κ ν) (k : κ) : (m ∪ m').lookup k = (m.lookup k).or (m'.lookup k) := by
  by_cases hk : k ∈ m
  · obtain ⟨v, hv⟩ := Finmap.mem_iff.1 hk
    rw [Finmap.lookup_union_left hk, hv, Option.some_or]
  · rw [Finmap.lookup_union_right hk, Finmap.lookup_eq_none.2 hk, Option.none_or]

end Entries

open Entries

/-- A map, the keys its owner recorded, and what others set since. -/
structure Ledger (κ ν : Type) where
  entries : Entries κ ν
  recorded : Finset κ
  others : Entries κ ν

inductive Edit (κ ν : Type) where
  | set (k : κ) (v : ν)
  | remove (k : κ)

def Edit.apply (m : Entries κ ν) : Edit κ ν → Entries κ ν
  | .set k v => m.insert k v
  | .remove k => m.erase k

namespace Ledger

def empty : Ledger κ ν := ⟨∅, ∅, ∅⟩

def edit (l : Ledger κ ν) (e : Edit κ ν) : Ledger κ ν := ⟨e.apply l.entries, l.recorded, e.apply l.others⟩

def merged (l : Ledger κ ν) (wanted : Entries κ ν) : Entries κ ν := wanted ∪ l.entries.without l.recorded

/-- A merge, of which the record of keys is stored or not. -/
def merge (l : Ledger κ ν) (wanted : Entries κ ν) (stored : Bool) : Ledger κ ν :=
  ⟨l.merged wanted, if stored then wanted.keys else l.recorded, l.others.without wanted.keys⟩

/-- The map holds what is wanted and what others have set. -/
def Right (l : Ledger κ ν) (wanted : Entries κ ν) : Prop := l.entries = wanted ∪ l.others

/-- Of the unwanted entries, others have not set the recorded ones. -/
def ToldApart (l : Ledger κ ν) (wanted : Entries κ ν) : Prop :=
  ∀ k ∈ l.entries, k ∉ wanted → (k ∈ l.others ↔ k ∉ l.recorded)

/-- What others have set stands in the map. -/
def Stands (l : Ledger κ ν) : Prop := ∀ k v, l.others.lookup k = some v → l.entries.lookup k = some v

theorem stands_empty : (empty : Ledger κ ν).Stands := by
  intro k v h
  exact h

theorem Stands.edit {l : Ledger κ ν} (h : l.Stands) (e : Edit κ ν) : (l.edit e).Stands := by
  intro k v hk
  cases e with
  | set a w =>
    simp only [Ledger.edit, Edit.apply] at hk ⊢
    by_cases hka : k = a
    · subst hka
      rwa [Finmap.lookup_insert] at hk ⊢
    · rw [Finmap.lookup_insert_of_ne _ hka] at hk ⊢
      exact h k v hk
  | remove a =>
    simp only [Ledger.edit, Edit.apply] at hk ⊢
    by_cases hka : k = a
    · subst hka
      simp at hk
    · rw [Finmap.lookup_erase_ne hka] at hk ⊢
      exact h k v hk

theorem stands_of_right {l : Ledger κ ν} {wanted : Entries κ ν} (h : l.Right wanted)
    (hothers : ∀ k ∈ wanted, l.others.lookup k = none) : l.Stands := by
  intro k v hk
  have hwanted : wanted.lookup k = none := by
    rw [Finmap.lookup_eq_none]
    intro hmem
    rw [hothers k hmem] at hk
    cases hk
  rw [h, lookup_union, hwanted, hk, Option.none_or]

theorem Stands.merge {l : Ledger κ ν} {wanted : Entries κ ν} {stored : Bool} (h : (l.merge wanted stored).Right wanted) :
    (l.merge wanted stored).Stands := by
  apply stands_of_right h
  intro k hk
  simp [Ledger.merge, Finmap.mem_keys.2 hk]

theorem merge_wanted (l : Ledger κ ν) (wanted : Entries κ ν) (stored : Bool) {k : κ} {v : ν}
    (h : wanted.lookup k = some v) : (l.merge wanted stored).entries.lookup k = some v := by
  rw [Ledger.merge, merged, lookup_union, h, Option.some_or]

/-- A merge is right exactly when it can tell the owner's entries. -/
theorem merge_right_iff {l : Ledger κ ν} (h : l.Stands) (wanted : Entries κ ν) (stored : Bool) :
    (l.merge wanted stored).Right wanted ↔ l.ToldApart wanted := by
  have hkey : ∀ k ∉ wanted, ((wanted ∪ l.entries.without l.recorded).lookup k =
      (wanted ∪ l.others.without wanted.keys).lookup k ↔
        (if k ∈ l.recorded then none else l.entries.lookup k) = l.others.lookup k) := by
    intro k hk
    have hkeys : k ∉ wanted.keys := fun hmem => hk (Finmap.mem_keys.1 hmem)
    rw [lookup_union, lookup_union, Finmap.lookup_eq_none.2 hk, Option.none_or, Option.none_or, lookup_without,
      lookup_without, if_neg hkeys]
  constructor
  · intro hright k hentry hk
    have hlookup := (hkey k hk).1 (by rw [← merged]; exact congrArg (Finmap.lookup k) hright)
    by_cases hrec : k ∈ l.recorded
    · rw [if_pos hrec] at hlookup
      simp [hrec, Finmap.lookup_eq_none.1 hlookup.symm]
    · rw [if_neg hrec] at hlookup
      simp only [hrec, not_false_eq_true, iff_true]
      rwa [← Finmap.lookup_isSome, ← hlookup, Finmap.lookup_isSome]
  · intro htold
    apply Finmap.ext_lookup
    intro k
    by_cases hk : k ∈ wanted
    · obtain ⟨v, hv⟩ := Finmap.mem_iff.1 hk
      simp only [Ledger.merge, merged]
      rw [lookup_union, lookup_union, hv, Option.some_or, Option.some_or]
    · refine (hkey k hk).2 ?_
      by_cases hentry : k ∈ l.entries
      · by_cases hrec : k ∈ l.recorded
        · have hother : k ∉ l.others := fun hmem => (htold k hentry hk).1 hmem hrec
          rw [if_pos hrec, Finmap.lookup_eq_none.2 hother]
        · obtain ⟨v, hv⟩ := Finmap.mem_iff.1 ((htold k hentry hk).2 hrec)
          rw [if_neg hrec, h k v hv, hv]
      · have hother : l.others.lookup k = none := by
          cases hother : l.others.lookup k with
          | none => rfl
          | some v => exact absurd (Finmap.mem_of_lookup_eq_some (h k v hother)) hentry
        rw [hother, Finmap.lookup_eq_none.2 hentry, ite_self]

end Ledger

end Krm.Lib
