import Krm.PodGroups.Steps
import Mathlib.Data.List.Rotate

/-! # The search for a node pool

The node pools are tried in the order of the list, around its end, from a first candidate on. The search ends at the
first one that is available, and fails at the first one that does not exist. -/

open Krm.Lib

namespace Krm.PodGroups

/-! ## Places in the list -/

section

variable {requested : List String}

theorem indexOfItemInList_of_mem {item : String} (h : item ∈ requested) :
    indexOfItemInList requested item = (requested.idxOf item : Int) := by
  obtain ⟨i, hi⟩ := Option.isSome_iff_exists.1 (List.isSome_idxOf?.2 h)
  rw [indexOfItemInList, List.idxOf_eq_getD_idxOf?, hi]
  rfl

theorem roundRobin_ok (h : 0 < requested.length) (i d : Nat) :
    roundRobin ((i : Int) + d) requested = .ok ((i + d) % requested.length) := by
  unfold roundRobin
  rw [if_neg (by omega)]
  congr 1

theorem elementAt_rotate {i d : Nat} {name : String} (h : (requested.rotate i)[d]? = some name) :
    elementAt requested ((i + d) % requested.length) = .ok name := by
  have hlt : d < requested.length := by
    have hrotate := (List.getElem?_eq_some_iff.1 h).1
    rwa [List.length_rotate] at hrotate
  rw [List.getElem?_rotate hlt, Nat.add_comm] at h
  rw [elementAt, h]

theorem mem_of_rotate {i d : Nat} {name : String} (h : (requested.rotate i)[d]? = some name) : name ∈ requested :=
  List.mem_rotate.1 (List.mem_of_getElem? h)

theorem getInitialNodePoolAssignmentParams_of_ne_nil (h : requested ≠ []) (mark : Option Bool)
    (last : Option SchedulingCondition) (assigned : String) :
    ∃ initial, getInitialNodePoolAssignmentParams mark last assigned requested = .ok initial := by
  have hpos : 0 < requested.length := List.length_pos_iff.2 h
  have helement : ∀ i < requested.length, ∃ name, elementAt requested i = .ok name := by
    intro i hi
    exact ⟨requested[i], by rw [elementAt, List.getElem?_eq_getElem hi]⟩
  cases last with
  | none =>
    obtain ⟨first, hfirst⟩ := helement 0 hpos
    simp [getInitialNodePoolAssignmentParams, hfirst, bind, Except.bind]
  | some last =>
    have hround : roundRobin (indexOfItemInList requested last.nodePool + 1) requested =
        .ok ((indexOfItemInList requested last.nodePool + 1) % requested.length).toNat := by
      rw [roundRobin, if_neg (by omega)]
    have hlt : ((indexOfItemInList requested last.nodePool + 1) % requested.length).toNat < requested.length := by
      have hmod := Int.emod_lt_of_pos (indexOfItemInList requested last.nodePool + 1) (Int.natCast_pos.2 hpos)
      have hnonneg := Int.emod_nonneg (indexOfItemInList requested last.nodePool + 1) (Int.natCast_ne_zero.2 hpos.ne')
      omega
    obtain ⟨name, hname⟩ := helement _ hlt
    simp [getInitialNodePoolAssignmentParams, hround, hname, bind, Except.bind]

variable {mark : Option Bool} {c : Cluster} {params : NodePoolAssignmentParams} {last : Option SchedulingCondition}
  {assigned : String}

theorem getInitialNodePoolAssignmentParams_after {last : SchedulingCondition} {initial : NodePoolAssignmentParams}
    (hlast : last.nodePool ∈ requested)
    (h : getInitialNodePoolAssignmentParams mark (some last) assigned requested = .ok initial) :
    requested[(requested.idxOf last.nodePool + 1) % requested.length]? = some initial.nodePoolName ∧
      initial.markUnschedulable = (getMarkUnschedulableValue mark ||
        (requested.idxOf last.nodePool + 1) % requested.length = requested.length - 1) := by
  have hindex : roundRobin ((requested.idxOf last.nodePool : Int) + 1) requested =
      .ok ((requested.idxOf last.nodePool + 1) % requested.length) :=
    roundRobin_ok (List.length_pos_of_mem hlast) _ 1
  simp only [getInitialNodePoolAssignmentParams, indexOfItemInList_of_mem hlast, hindex, bind, Except.bind] at h
  rw [elementAt] at h
  cases hget : requested[(requested.idxOf last.nodePool + 1) % requested.length]? with
  | none =>
    rw [hget] at h
    cases h
  | some name =>
    rw [hget] at h
    cases h
    exact ⟨rfl, rfl⟩

/-! ## The mark -/

theorem findNextNodePoolFrom_unmarked {start params : NodePoolAssignmentParams} {previous : Int} {indices : List Nat}
    (h : findNextNodePoolFrom c requested start previous indices = .ok params)
    (hmark : params.markUnschedulable = false) :
    start.markUnschedulable = false ∧
      ∃ k : Nat, requested[k]? = some params.nodePoolName ∧ k ≠ requested.length - 1 ∧ previous ≤ k := by
  induction indices with
  | nil => cases h
  | cons index indices ih =>
    unfold findNextNodePoolFrom at h
    obtain ⟨next, -, h⟩ := bind_ok h
    obtain ⟨name, hname, h⟩ := bind_ok h
    obtain ⟨available, -, h⟩ := bind_ok h
    split at h
    · cases h
      simp only [Bool.or_eq_false_iff, decide_eq_false_iff_not, not_lt] at hmark
      exact ⟨hmark.1, next, elementAt_getElem? hname, hmark.2.1, hmark.2.2⟩
    · exact ih h

theorem getNodePoolAssignmentParams_unmarked
    (h : getNodePoolAssignmentParams c mark last assigned requested = .ok params)
    (hmark : params.markUnschedulable = false) :
    ∃ initial, getInitialNodePoolAssignmentParams mark last assigned requested = .ok initial ∧
      initial.markUnschedulable = false ∧ (params.nodePoolName = initial.nodePoolName ∨
        ∃ k : Nat, requested[k]? = some params.nodePoolName ∧ k ≠ requested.length - 1 ∧
          indexOfItemInList requested initial.nodePoolName ≤ k) := by
  unfold getNodePoolAssignmentParams at h
  obtain ⟨calculated, hcalculated, h⟩ := bind_ok h
  have hsame : params.nodePoolName = calculated.nodePoolName ∧ params.markUnschedulable = calculated.markUnschedulable := by
    split at h
    · cases h
      exact ⟨rfl, rfl⟩
    · cases h
      exact ⟨rfl, rfl⟩
  rw [hsame.2] at hmark
  rw [hsame.1]
  unfold calculateNodePoolAssignmentParams at hcalculated
  obtain ⟨initial, hinitial, hcalculated⟩ := bind_ok hcalculated
  obtain ⟨available, -, hcalculated⟩ := bind_ok hcalculated
  refine ⟨initial, hinitial, ?_⟩
  split at hcalculated
  · cases hcalculated
    exact ⟨hmark, .inl rfl⟩
  · obtain ⟨hstart, hfound⟩ := findNextNodePoolFrom_unmarked hcalculated hmark
    exact ⟨hstart, .inr hfound⟩

theorem getNodePoolAssignmentParams_marked
    (h : getNodePoolAssignmentParams c (some true) last assigned requested = .ok params) :
    params.markUnschedulable = true := by
  -- What is marked stays marked.
  by_contra hunmarked
  obtain ⟨initial, hinitial, hmark, -⟩ := getNodePoolAssignmentParams_unmarked h (Bool.not_eq_true _ ▸ hunmarked)
  have htrue : initial.markUnschedulable = true := by
    unfold getInitialNodePoolAssignmentParams at hinitial
    cases last with
    | none =>
      obtain ⟨first, -, hinitial⟩ := bind_ok hinitial
      cases hinitial
      exact Bool.or_true _
    | some last =>
      obtain ⟨next, -, hinitial⟩ := bind_ok hinitial
      obtain ⟨name, -, hinitial⟩ := bind_ok hinitial
      cases hinitial
      rfl
  rw [htrue] at hmark
  cases hmark

theorem unmarked_goes_forward {last : SchedulingCondition} (hnodup : requested.Nodup)
    (hlast : last.nodePool ∈ requested)
    (h : getNodePoolAssignmentParams c mark (some last) assigned requested = .ok params)
    (hmark : params.markUnschedulable = false) :
    requested.idxOf params.nodePoolName ≠ requested.length - 1 ∧
      (requested.idxOf last.nodePool ≠ requested.length - 1 →
        requested.idxOf last.nodePool < requested.idxOf params.nodePoolName) := by
  have hplace : ∀ {k : Nat} {name : String}, requested[k]? = some name → requested.idxOf name = k := by
    intro k name hget
    obtain ⟨hlt, rfl⟩ := List.getElem?_eq_some_iff.1 hget
    exact hnodup.idxOf_getElem k hlt
  obtain ⟨initial, hinitial, hunmarked, hfound⟩ := getNodePoolAssignmentParams_unmarked h hmark
  obtain ⟨hget, hinitialMark⟩ := getInitialNodePoolAssignmentParams_after hlast hinitial
  rw [hunmarked, eq_comm, Bool.or_eq_false_iff, decide_eq_false_iff_not] at hinitialMark
  have hfirst := hplace hget
  have hnext : requested.idxOf last.nodePool ≠ requested.length - 1 →
      requested.idxOf initial.nodePoolName = requested.idxOf last.nodePool + 1 := by
    intro hinner
    have hlt := List.idxOf_lt_length_iff.2 hlast
    rw [hfirst, Nat.mod_eq_of_lt (by omega)]
  rcases hfound with hsame | ⟨k, hk, hend, hforward⟩
  · rw [hsame]
    exact ⟨hfirst ▸ hinitialMark.2, fun hinner => by rw [hnext hinner]; exact Nat.lt_succ_self _⟩
  · rw [indexOfItemInList_of_mem (List.mem_of_getElem? hget), Int.ofNat_le] at hforward
    rw [hplace hk]
    refine ⟨hend, fun hinner => ?_⟩
    rw [hnext hinner] at hforward
    exact hforward

end

/-! ## The outcome -/

section

variable (c : Cluster)

def Cluster.available (name : String) : Bool := (c.nodePools.get name).any fun nodePool => isAvailablePhase nodePool.phase

/-- The node pool is available, or is not there. -/
def Cluster.stops (name : String) : Bool := (c.nodePools.get name).all fun nodePool => isAvailablePhase nodePool.phase

/-- The search over the node pools in this order ends well, with this one. -/
def Reaches (order : List String) (name : String) : Prop := order.find? c.stops = some name ∧ c.available name

/-- The order in which node pools are tried after the first. -/
def tried (requested : List String) (first : String) : List String :=
  first :: (requested.rotate (requested.idxOf first)).drop 1

variable {name : String} {mark : Option Bool} {last : Option SchedulingCondition} {initial : NodePoolAssignmentParams}
  {requested : List String}

/-- Without duplicates, one round from the first candidate on. -/
theorem tried_eq_rotate (hnodup : requested.Nodup) {i : Nat} {first : String}
    (hfirst : (requested.rotate i)[0]? = some first) : tried requested first = requested.rotate i := by
  have hpos : 0 < requested.length := List.length_pos_of_mem (mem_of_rotate hfirst)
  have hlt : i % requested.length < requested.length := Nat.mod_lt i hpos
  have hindex : requested.idxOf first = i % requested.length := by
    rw [List.getElem?_rotate hpos, Nat.zero_add, List.getElem?_eq_getElem hlt, Option.some.injEq] at hfirst
    rw [← hfirst, hnodup.idxOf_getElem]
  rw [tried, hindex, List.rotate_mod]
  cases hrotate : requested.rotate i with
  | nil => simp [hrotate] at hfirst
  | cons head rest =>
    rw [hrotate] at hfirst
    cases hfirst
    rfl

theorem tried_after (hnodup : requested.Nodup) {last : SchedulingCondition} {assigned : String}
    (hlast : last.nodePool ∈ requested)
    (h : getInitialNodePoolAssignmentParams mark (some last) assigned requested = .ok initial) :
    tried requested initial.nodePoolName = requested.rotate (requested.idxOf last.nodePool + 1) := by
  -- After a condition, that is one round from the node pool on that follows the condition's.
  refine tried_eq_rotate hnodup ?_
  rw [List.getElem?_rotate (List.length_pos_of_mem hlast), Nat.zero_add]
  exact (getInitialNodePoolAssignmentParams_after hlast h).1

variable {c}

theorem stops_of_available (h : c.available name) : c.stops name := by
  unfold Cluster.available at h
  unfold Cluster.stops
  cases hget : c.nodePools.get name with
  | none => rfl
  | some nodePool =>
    rw [hget] at h
    exact h

theorem goes_on_iff : c.stops name = false ↔ c.available name = false ∧ (c.nodePools.get name).isSome := by
  unfold Cluster.stops Cluster.available
  cases c.nodePools.get name <;> simp

theorem reaches_cons {name other : String} {order : List String} :
    Reaches c (other :: order) name ↔
      (c.available other ∧ other = name) ∨ (c.stops other = false ∧ Reaches c order name) := by
  unfold Reaches
  cases hstops : c.stops other with
  | true =>
    rw [List.find?_cons_of_pos hstops, Option.some.injEq]
    constructor
    · rintro ⟨rfl, havailable⟩
      exact .inl ⟨havailable, rfl⟩
    · rintro (⟨havailable, rfl⟩ | ⟨hgoes, -⟩)
      · exact ⟨rfl, havailable⟩
      · cases hgoes
  | false =>
    rw [List.find?_cons_of_neg (by simp [hstops])]
    simp [(goes_on_iff.1 hstops).1]

theorem exists_reaches_iff {order : List String} :
    (∃ name, Reaches c order name) ↔ ∃ before name after, order = before ++ name :: after ∧ c.available name ∧
      ∀ other ∈ before, (c.nodePools.get other).isSome := by
  induction order with
  | nil => simp [Reaches]
  | cons other order ih =>
    simp only [reaches_cons]
    constructor
    · rintro ⟨name, ⟨havailable, rfl⟩ | ⟨hgoes, hreaches⟩⟩
      · exact ⟨[], other, order, rfl, havailable, by simp⟩
      · obtain ⟨before, name, after, rfl, havailable, hbefore⟩ := ih.1 ⟨name, hreaches⟩
        refine ⟨other :: before, name, after, rfl, havailable, ?_⟩
        exact List.forall_mem_cons.2 ⟨(goes_on_iff.1 hgoes).2, hbefore⟩
    · rintro ⟨before, name, after, horder, havailable, hbefore⟩
      cases hother : c.available other with
      | true => exact ⟨other, .inl ⟨rfl, rfl⟩⟩
      | false =>
        -- the node pool in front is not available, so it is one of those before
        cases before with
        | nil =>
          rw [List.nil_append, List.cons.injEq] at horder
          rw [← horder.1, hother] at havailable
          cases havailable
        | cons head before =>
          rw [List.cons_append, List.cons.injEq] at horder
          obtain ⟨rfl, rfl⟩ := horder
          obtain ⟨hsome, hrest⟩ := List.forall_mem_cons.1 hbefore
          obtain ⟨name', hreaches⟩ := ih.2 ⟨before, name, after, rfl, havailable, hrest⟩
          exact ⟨name', .inr ⟨goes_on_iff.2 ⟨hother, hsome⟩, hreaches⟩⟩

variable (hcalls : ∀ call, c.fault call = none)

include hcalls

theorem isNodePoolAvailableForScheduling_eq (call : Call) (name : String) :
    isNodePoolAvailableForScheduling c call name =
      if c.stops name && !c.available name then .error (.api (.notFound name)) else .ok (c.available name) := by
  unfold isNodePoolAvailableForScheduling Cluster.getNodePool Cluster.attempt Cluster.stops Cluster.available
  cases hget : c.nodePools.get name <;> simp [hcalls, Cluster.found, Lib.found, bind, Except.bind]

theorem findNextNodePoolFrom_ok_iff (start : NodePoolAssignmentParams) {i m k : Nat} (hk : m + k = requested.length) :
    (∃ params, findNextNodePoolFrom c requested start i (List.range' m k) = .ok params ∧ params.nodePoolName = name) ↔
      Reaches c ((requested.rotate i).drop m) name := by
  induction k generalizing m with
  | zero =>
    rw [List.drop_of_length_le (by rw [List.length_rotate]; omega)]
    simp [findNextNodePoolFrom, Reaches]
  | succ k ih =>
    have hlt : m < (requested.rotate i).length := by
      rw [List.length_rotate]
      omega
    have hnext := List.getElem?_eq_getElem hlt
    rw [List.drop_eq_getElem_cons hlt]
    generalize (requested.rotate i)[m] = next at hnext ⊢
    simp only [List.range'_succ, findNextNodePoolFrom, roundRobin_ok (show 0 < requested.length by omega),
      elementAt_rotate hnext, isNodePoolAvailableForScheduling_eq hcalls, bind, Except.bind]
    rw [reaches_cons, ← ih (by omega)]
    cases havailable : c.available next with
    | true => simp [stops_of_available havailable]
    | false =>
      cases hstops : c.stops next with
      | true => simp
      | false => simp

theorem calculateNodePoolAssignmentParams_ok_iff {assigned name : String}
    (hinitial : getInitialNodePoolAssignmentParams mark last assigned requested = .ok initial) :
    (∃ params, calculateNodePoolAssignmentParams c mark last assigned requested = .ok params ∧
      params.nodePoolName = name) ↔ Reaches c (tried requested initial.nodePoolName) name := by
  have hmem := (getInitialNodePoolAssignmentParams_ok hinitial).1
  have hlength : 1 + (requested.length - 1) = requested.length := by
    have hpos := List.length_pos_of_mem hmem
    omega
  simp only [calculateNodePoolAssignmentParams, hinitial, isNodePoolAvailableForScheduling_eq hcalls, bind, Except.bind]
  rw [tried, reaches_cons, ← findNextNodePoolFrom_ok_iff hcalls initial hlength]
  cases havailable : c.available initial.nodePoolName with
  | true => simp [stops_of_available havailable]
  | false =>
    cases hstops : c.stops initial.nodePoolName with
    | true => simp
    | false => simp [findNextNodePoolAvailableForScheduling, indexOfItemInList_of_mem hmem]

theorem getNodePoolAssignmentParams_ok_iff {assigned name : String}
    (hinitial : getInitialNodePoolAssignmentParams mark last assigned requested = .ok initial) :
    (∃ params, getNodePoolAssignmentParams c mark last assigned requested = .ok params ∧
      params.nodePoolName = name) ↔ Reaches c (tried requested initial.nodePoolName) name := by
  rw [← calculateNodePoolAssignmentParams_ok_iff hcalls hinitial]
  unfold getNodePoolAssignmentParams
  cases calculateNodePoolAssignmentParams c mark last assigned requested with
  | error e => simp [bind, Except.bind]
  | ok params =>
    simp only [bind, Except.bind]
    split_ifs <;> simp

end

end Krm.PodGroups
