import Krm.Lib.Store

/-! # Entries that claim keys of a store in turn

Each entry of a list claims at most one key, knowing the keys claimed before its turn, and then writes what it
wants under the key. -/

namespace Krm.Lib

section Claims

variable {ε κ : Type} (planned : List κ → Nat → ε → Option κ) (entries : List ε)

/-- The keys claimed in the first `i` turns, the latest first. -/
def claims : Nat → List κ
  | 0 => []
  | i + 1 => ((entries[i]?).bind (planned (claims i) i)).toList ++ claims i

def claimAt (i : Nat) : Option κ := (entries[i]?).bind (planned (claims planned entries i) i)

theorem claims_succ (i : Nat) :
    claims planned entries (i + 1) = (claimAt planned entries i).toList ++ claims planned entries i := rfl

theorem claims_eq (i : Nat) : claims planned entries i = writesUpTo (claimAt planned entries) i := by
  induction i with
  | zero => rfl
  | succ i ih => rw [claims_succ, writesUpTo, ih]

variable {planned entries}

theorem claimAt_eq {i : Nat} {e : ε} (h : entries[i]? = some e) :
    claimAt planned entries i = planned (claims planned entries i) i e := by
  rw [claimAt, h, Option.bind_some]

theorem claimAt_lt {i : Nat} {k : κ} (h : claimAt planned entries i = some k) : i < entries.length := by
  simp only [claimAt, Option.bind_eq_some_iff] at h
  obtain ⟨e, he, -⟩ := h
  exact (List.getElem?_eq_some_iff.1 he).1

theorem mem_claims {i : Nat} {k : κ} : k ∈ claims planned entries i ↔ ∃ j < i, claimAt planned entries j = some k := by
  rw [claims_eq, mem_writesUpTo]

theorem mem_claims_length {k : κ} :
    k ∈ claims planned entries entries.length ↔ ∃ j, claimAt planned entries j = some k := by
  rw [mem_claims]
  exact ⟨fun ⟨j, _, h⟩ => ⟨j, h⟩, fun ⟨j, h⟩ => ⟨j, claimAt_lt h, h⟩⟩

end Claims

section Wants

variable {ε κ ω : Type} (planned : List κ → Nat → ε → Option κ) (entries : List ε) (want : Nat → ε → κ → ω)

def wantAt (i : Nat) : Option ω := (entries[i]?).bind fun e => (claimAt planned entries i).map (want i e)

variable {planned entries want}

theorem wantAt_of_claim {i : Nat} {e : ε} {k : κ} (he : entries[i]? = some e)
    (hk : claimAt planned entries i = some k) : wantAt planned entries want i = some (want i e k) := by
  rw [wantAt, he, hk]
  rfl

theorem wantAt_of_none {i : Nat} (h : claimAt planned entries i = none) : wantAt planned entries want i = none := by
  rw [wantAt, h]
  cases entries[i]? <;> rfl

theorem wantAt_eq_some {i : Nat} {w : ω} (h : wantAt planned entries want i = some w) :
    ∃ e k, entries[i]? = some e ∧ claimAt planned entries i = some k ∧ w = want i e k := by
  simp only [wantAt, Option.bind_eq_some_iff, Option.map_eq_some_iff] at h
  obtain ⟨e, he, k, hk, rfl⟩ := h
  exact ⟨e, k, he, hk, rfl⟩

variable {name : ω → κ} (hname : ∀ i e k, name (want i e k) = k)
include hname

theorem wants_names (i : Nat) : (writesUpTo (wantAt planned entries want) i).map name = claims planned entries i := by
  rw [map_writesUpTo, claims_eq]
  congr 1
  funext j
  unfold wantAt
  cases he : entries[j]? with
  | none => simp [claimAt, he]
  | some e => simp [Option.map_map, Function.comp_def, hname]

variable {α : Type} {key : α → κ} [DecidableEq κ] {like : ω → α → Prop} {s₀ s : Store key} {i : Nat}
  (h : s₀.Written name like (writesUpTo (wantAt planned entries want) i) s)
include h

theorem last_claim {a : α} (ha : a ∈ s.items) (hc : key a ∈ claims planned entries i) :
    ∃ j < i, ∃ e, entries[j]? = some e ∧ claimAt planned entries j = some (key a) ∧
      (∀ l, j < l → l < i → claimAt planned entries l ≠ some (key a)) ∧ like (want j e (key a)) a := by
  rw [← wants_names hname] at hc
  obtain ⟨w, hw, hlike⟩ := h.mem_written ha hc
  obtain ⟨j, hj, hwant, hkey, hlater⟩ := (find_writesUpTo name).1 hw
  obtain ⟨e, k, he, hk, rfl⟩ := wantAt_eq_some hwant
  rw [hname] at hkey
  subst hkey
  refine ⟨j, hj, e, he, hk, fun l hl hl' hclaim => ?_, hlike⟩
  obtain ⟨e', he'⟩ : ∃ e', entries[l]? = some e' := ⟨_, List.getElem?_eq_getElem (claimAt_lt hclaim)⟩
  exact hlater l hl hl' _ (wantAt_of_claim he' hclaim) (hname l e' _)

theorem claim_held {k : κ} (hk : k ∈ claims planned entries i) : ∃ a, s.get k = some a := by
  rw [← wants_names hname] at hk
  exact h.get_written hk

theorem agreeOff_claims : Store.AgreeOff (claims planned entries i) s₀ s := by
  rw [← wants_names hname]
  exact h.agree

theorem written_claim {s' : Store key} {e : ε} {k : κ} (he : entries[i]? = some e) (hk : claimAt planned entries i = some k)
    (hagree : Store.AgreeOff [k] s s') (hget : ∃ a, s'.get k = some a ∧ like (want i e k) a) :
    s₀.Written name like (writesUpTo (wantAt planned entries want) (i + 1)) s' := by
  rw [writesUpTo, wantAt_of_claim he hk]
  refine h.write ?_ ?_
  · rwa [hname]
  · rwa [hname]

omit hname in
theorem written_skip (hk : claimAt planned entries i = none) :
    s₀.Written name like (writesUpTo (wantAt planned entries want) (i + 1)) s := by
  rw [writesUpTo, wantAt_of_none hk]
  exact h

end Wants

end Krm.Lib
