import Krm.Lib.Runs
import Krm.PodGroups.PodMutator
import Mathlib.Data.List.Dedup

/-! # What an affinity converts to -/

open Krm.Lib

namespace Krm.PodGroups

open PodMutator

section

variable {cfg : PodGroupAssignerConfig} {maps : NodePoolsMap × Labels}

/-! ## What a term names -/

/-- The node pool with the value, unless it is being deleted. -/
def pick (nodePoolsWithKeyMap deletingNodePools : Labels) (value : String) : Option String :=
  (nodePoolsWithKeyMap.lookup value).filter fun nodePoolName => (deletingNodePools.lookup nodePoolName).isNone

/-- The node pools that one expression names. -/
def named (cfg : PodGroupAssignerConfig) (maps : NodePoolsMap × Labels) (matchExpression : NodeSelectorRequirement) :
    List String :=
  if matchExpression.operator ≠ .in then
    if matchExpression.operator = .doesNotExist && matchExpression.key = cfg.nodePoolLabelKey then
      [cfg.defaultNodepoolName]
    else []
  else matchExpression.values.filterMap (pick ((maps.1.lookup matchExpression.key).getD ∅) maps.2)

theorem foldl_pick (nodePoolsWithKeyMap deletingNodePools : Labels) (values : List String) (start : List String × Bool) :
    values.foldl
      (fun (result, foundNodePools) matchExpressionValue =>
        match nodePoolsWithKeyMap.lookup matchExpressionValue with
        | none => (result, foundNodePools)
        | some nodePoolName =>
          if (deletingNodePools.lookup nodePoolName).isSome then (result, foundNodePools)
          else (result ++ [nodePoolName], true)) start =
      (start.1 ++ values.filterMap (pick nodePoolsWithKeyMap deletingNodePools),
        start.2 || !(values.filterMap (pick nodePoolsWithKeyMap deletingNodePools)).isEmpty) := by
  induction values generalizing start with
  | nil => simp
  | cons value values ih =>
    rw [List.foldl_cons, ih]
    cases hvalue : nodePoolsWithKeyMap.lookup value with
    | none =>
      rw [List.filterMap_cons_none (by simp [pick, hvalue])]
    | some nodePoolName =>
      cases hdeleting : deletingNodePools.lookup nodePoolName with
      | none =>
        have hpick : pick nodePoolsWithKeyMap deletingNodePools value = some nodePoolName := by
          simp [pick, hvalue, hdeleting, Option.filter]
        rw [List.filterMap_cons_some hpick]
        simp [hdeleting]
      | some phase =>
        rw [List.filterMap_cons_none (by simp [pick, hvalue, hdeleting])]
        simp [hdeleting]

variable {name : String} {allNodePools : List NodePool} (matchExpression : NodeSelectorRequirement) (list : List String)

theorem getNodePoolsForMatchExpression_eq (result : List String) :
    getNodePoolsForMatchExpression cfg matchExpression maps.1 maps.2 result =
      (result ++ named cfg maps matchExpression, !(named cfg maps matchExpression).isEmpty) := by
  unfold getNodePoolsForMatchExpression named
  split_ifs
  · rfl
  · simp
  · cases hkey : maps.1.lookup matchExpression.key with
    | none => simp [pick]
    | some nodePoolsWithKeyMap => exact foldl_pick nodePoolsWithKeyMap maps.2 matchExpression.values (result, false)

theorem getNodePoolsForTerm_eq (result : List String) (matchExpressions : List NodeSelectorRequirement) :
    getNodePoolsForTerm cfg maps result matchExpressions = result ++ getNodePoolsForTerm cfg maps [] matchExpressions := by
  induction matchExpressions with
  | nil => exact (List.append_nil result).symm
  | cons matchExpression matchExpressions ih =>
    simp only [getNodePoolsForTerm, getNodePoolsForMatchExpression_eq, List.nil_append]
    cases hnamed : named cfg maps matchExpression with
    | nil => simpa using ih
    | cons name names => simp

theorem getNodePoolsForTerm_concat (matchExpressions : List NodeSelectorRequirement)
    (matchExpression : NodeSelectorRequirement) :
    getNodePoolsForTerm cfg maps [] (matchExpressions ++ [matchExpression]) =
      if getNodePoolsForTerm cfg maps [] matchExpressions = [] then named cfg maps matchExpression
      else getNodePoolsForTerm cfg maps [] matchExpressions := by
  induction matchExpressions with
  | nil =>
    simp only [List.nil_append, getNodePoolsForTerm, getNodePoolsForMatchExpression_eq, if_true]
    split <;> simp_all
  | cons first matchExpressions ih =>
    simp only [List.cons_append, getNodePoolsForTerm, getNodePoolsForMatchExpression_eq, List.nil_append]
    cases hnamed : named cfg maps first with
    | nil => simpa using ih
    | cons name names => simp

theorem getNodePoolsForTerm_cons (matchExpressions : List NodeSelectorRequirement) :
    getNodePoolsForTerm cfg maps [] (matchExpression :: matchExpressions) =
      if named cfg maps matchExpression = [] then getNodePoolsForTerm cfg maps [] matchExpressions
      else named cfg maps matchExpression := by
  simp only [getNodePoolsForTerm, getNodePoolsForMatchExpression_eq, List.nil_append]
  cases hnamed : named cfg maps matchExpression with
  | nil => simp
  | cons name names => simp

theorem mem_getNodePoolsForTerm {matchExpressions : List NodeSelectorRequirement}
    (h : name ∈ getNodePoolsForTerm cfg maps [] matchExpressions) :
    ∃ matchExpression ∈ matchExpressions, name ∈ named cfg maps matchExpression := by
  induction matchExpressions with
  | nil => cases h
  | cons first matchExpressions ih =>
    rw [getNodePoolsForTerm_cons] at h
    split_ifs at h
    · obtain ⟨matchExpression, hmem, hname⟩ := ih h
      exact ⟨matchExpression, List.mem_cons_of_mem _ hmem, hname⟩
    · exact ⟨first, List.mem_cons_self, h⟩

theorem getNodePoolsForTerm_eq_nil {matchExpressions : List NodeSelectorRequirement} :
    getNodePoolsForTerm cfg maps [] matchExpressions = [] ↔
      ∀ matchExpression ∈ matchExpressions, named cfg maps matchExpression = [] := by
  induction matchExpressions with
  | nil => simp [getNodePoolsForTerm]
  | cons first matchExpressions ih =>
    rw [getNodePoolsForTerm_cons, List.forall_mem_cons]
    split_ifs with hfirst
    · rw [ih, and_iff_right hfirst]
    · exact ⟨fun h => absurd h hfirst, fun h => h.1⟩

/-! ## Duplicates -/

theorem removeDuplicates_concat (item : String) :
    removeDuplicates (list ++ [item]) =
      if item ∈ removeDuplicates list then removeDuplicates list else removeDuplicates list ++ [item] := by
  rw [removeDuplicates, List.foldl_concat]
  rfl

theorem removeDuplicates_eq : removeDuplicates list = list.reverse.dedup.reverse := by
  induction list using List.reverseRecOn with
  | nil => rfl
  | append_singleton list item ih =>
    rw [removeDuplicates_concat, ih, List.reverse_concat]
    split_ifs with hmem
    all_goals rw [List.mem_reverse, List.mem_dedup] at hmem
    · rw [List.dedup_cons_of_mem hmem]
    · rw [List.dedup_cons_of_notMem hmem, List.reverse_cons]

theorem mem_removeDuplicates (item : String) : item ∈ removeDuplicates list ↔ item ∈ list := by
  rw [removeDuplicates_eq, List.mem_reverse, List.mem_dedup, List.mem_reverse]

theorem nodup_removeDuplicates : (removeDuplicates list).Nodup := by
  rw [removeDuplicates_eq, List.nodup_reverse]
  exact List.nodup_dedup _

theorem removeDuplicates_eq_singleton {list : List String} {item : String} :
    removeDuplicates list = [item] ↔ list ≠ [] ∧ ∀ other ∈ list, other = item := by
  constructor
  · intro h
    have hmem : ∀ other, other ∈ list ↔ other = item := by
      intro other
      rw [← mem_removeDuplicates, h, List.mem_singleton]
    exact ⟨List.ne_nil_of_mem ((hmem item).2 rfl), fun other hother => (hmem other).1 hother⟩
  · rintro ⟨hne, hall⟩
    obtain ⟨first, hfirst⟩ := List.exists_mem_of_ne_nil list hne
    apply List.perm_singleton.1
    rw [List.perm_ext_iff_of_nodup (nodup_removeDuplicates list) (List.nodup_singleton item)]
    intro other
    rw [mem_removeDuplicates, List.mem_singleton]
    constructor
    · exact hall other
    · rintro rfl
      exact hall first hfirst ▸ hfirst

theorem removeDuplicates_copies {copies : List String} {item : String} (hne : copies ≠ [])
    (hsame : ∀ copy ∈ copies, copy = item) : removeDuplicates (list ++ copies) = removeDuplicates (list ++ [item]) := by
  induction copies using List.reverseRecOn with
  | nil => exact absurd rfl hne
  | append_singleton copies last ih =>
    have hlast : last = item := hsame last (List.mem_append_right _ (List.mem_singleton_self last))
    subst hlast
    by_cases hcopies : copies = []
    · rw [hcopies, List.nil_append]
    · have hmem : last ∈ removeDuplicates (list ++ [last]) :=
        (mem_removeDuplicates _ _).2 (List.mem_append_right _ (List.mem_singleton_self last))
      rw [← List.append_assoc, removeDuplicates_concat,
        ih hcopies fun copy hcopy => hsame copy (List.mem_append_left _ hcopy), if_pos hmem]

theorem removeDuplicates_append {list other : List String} (h : removeDuplicates list = removeDuplicates other)
    (rest : List String) : removeDuplicates (list ++ rest) = removeDuplicates (other ++ rest) := by
  unfold removeDuplicates at h ⊢
  rw [List.foldl_append, List.foldl_append, h]

theorem removeDuplicates_flatMap {α : Type} {f : α → List String} {names : List String} {list : List α}
    (h : List.Forall₂ (fun name a => f a ≠ [] ∧ ∀ copy ∈ f a, copy = name) names list) (before : List String) :
    removeDuplicates (before ++ list.flatMap f) = removeDuplicates (before ++ names) := by
  induction h generalizing before with
  | nil => rfl
  | @cons name a names list hcopies _ ih =>
    rw [List.flatMap_cons, ← List.append_assoc,
      removeDuplicates_append (removeDuplicates_copies before hcopies.1 hcopies.2), ih, List.append_assoc,
      List.singleton_append]

/-! ## The maps of all node pools -/

/-- The name that the map has for a pair. -/
def nameOf (allNodePools : List NodePool) (key value : String) : Option String :=
  (((getNodePoolsMap allNodePools).1.lookup key).getD ∅).lookup value

theorem nameOf_concat (allNodePools : List NodePool) (nodePool : NodePool) (key value : String) :
    nameOf (allNodePools ++ [nodePool]) key value =
      if key = nodePool.labelKey ∧ value = nodePool.labelValue then some nodePool.name
      else nameOf allNodePools key value := by
  unfold nameOf getNodePoolsMap
  rw [List.foldl_concat]
  dsimp only
  by_cases hkey : key = nodePool.labelKey
  · subst hkey
    rw [Finmap.lookup_insert, Option.getD_some]
    by_cases hvalue : value = nodePool.labelValue
    · rw [hvalue, Finmap.lookup_insert, if_pos ⟨rfl, rfl⟩]
    · rw [Finmap.lookup_insert_of_ne _ hvalue, if_neg fun h => hvalue h.2]
  · rw [Finmap.lookup_insert_of_ne _ hkey, if_neg fun h => hkey h.1]

theorem nameOf_some {key value name : String} (h : nameOf allNodePools key value = some name) :
    ∃ nodePool ∈ allNodePools, nodePool.name = name ∧ nodePool.labelKey = key ∧ nodePool.labelValue = value := by
  induction allNodePools using List.reverseRecOn with
  | nil => simp [nameOf, getNodePoolsMap] at h
  | append_singleton allNodePools last ih =>
    rw [nameOf_concat] at h
    split_ifs at h with hsame
    · exact ⟨last, List.mem_append_right _ (List.mem_singleton_self last), Option.some.inj h, hsame.1.symm, hsame.2.symm⟩
    · obtain ⟨nodePool, hmem, hnodePool⟩ := ih h
      exact ⟨nodePool, List.mem_append_left _ hmem, hnodePool⟩

/-- No two node pools have one label pair. -/
abbrev PairsDistinct (allNodePools : List NodePool) : Prop :=
  ∀ first ∈ allNodePools, ∀ second ∈ allNodePools, first.labelKey = second.labelKey →
    first.labelValue = second.labelValue → first = second

theorem nameOf_pair (hpairs : PairsDistinct allNodePools) {nodePool : NodePool} (hmem : nodePool ∈ allNodePools) :
    nameOf allNodePools nodePool.labelKey nodePool.labelValue = some nodePool.name := by
  induction allNodePools using List.reverseRecOn with
  | nil => cases hmem
  | append_singleton allNodePools last ih =>
    rw [nameOf_concat]
    split_ifs with hsame
    · have hlast := hpairs nodePool hmem last (List.mem_append_right _ (List.mem_singleton_self last)) hsame.1 hsame.2
      rw [hlast]
    · rcases List.mem_append.1 hmem with hmem | hlast
      · exact ih (fun first hfirst second hsecond => hpairs first (List.mem_append_left _ hfirst) second
          (List.mem_append_left _ hsecond)) hmem
      · rw [List.mem_singleton.1 hlast] at hsame
        exact absurd ⟨rfl, rfl⟩ hsame

theorem deleting_iff :
    ((getNodePoolsMap allNodePools).2.lookup name).isSome ↔
      ∃ nodePool ∈ allNodePools, nodePool.name = name ∧ nodePool.phase = .deleting := by
  induction allNodePools using List.reverseRecOn with
  | nil => simp [getNodePoolsMap]
  | append_singleton allNodePools last ih =>
    have hlast : ((getNodePoolsMap (allNodePools ++ [last])).2.lookup name).isSome ↔
        ((getNodePoolsMap allNodePools).2.lookup name).isSome ∨ (last.name = name ∧ last.phase = .deleting) := by
      unfold getNodePoolsMap
      rw [List.foldl_concat]
      dsimp only
      split_ifs with hdeleting
      · by_cases hname : name = last.name
        · subst hname
          rw [Finmap.lookup_insert]
          simp [hdeleting]
        · rw [Finmap.lookup_insert_of_ne _ hname]
          simp [Ne.symm hname]
      · simp [hdeleting]
    rw [hlast, ih]
    simp only [List.mem_append, List.mem_singleton, or_and_right, exists_or, exists_eq_left]

theorem kept_lookup {nodePools : Store NodePool.name} {nodePool : NodePool} (hmem : nodePool ∈ nodePools.items) :
    (getNodePoolsMap nodePools.items).2.lookup nodePool.name = none ↔ nodePool.phase ≠ .deleting := by
  rw [← not_iff_not, ← Ne, ← Option.isSome_iff_ne_none, deleting_iff, not_not]
  constructor
  · rintro ⟨other, hother, hname, hdeleting⟩
    have hsame : other = nodePool := Store.eq_of_mem hother hmem hname
    rwa [hsame] at hdeleting
  · exact fun hdeleting => ⟨nodePool, hmem, rfl, hdeleting⟩

theorem mem_named {matchExpression : NodeSelectorRequirement}
    (h : name ∈ named cfg (getNodePoolsMap allNodePools) matchExpression) :
    (matchExpression.operator = .doesNotExist ∧ matchExpression.key = cfg.nodePoolLabelKey ∧
      name = cfg.defaultNodepoolName) ∨
    (matchExpression.operator = .in ∧ (getNodePoolsMap allNodePools).2.lookup name = none ∧
      ∃ nodePool ∈ allNodePools, nodePool.name = name ∧ nodePool.labelKey = matchExpression.key ∧
        nodePool.labelValue ∈ matchExpression.values) := by
  unfold named at h
  split_ifs at h with hop hdefault
  · simp only [Bool.and_eq_true, decide_eq_true_eq] at hdefault
    exact .inl ⟨hdefault.1, hdefault.2, List.mem_singleton.1 h⟩
  · cases h
  · obtain ⟨value, hvalue, hpick⟩ := List.mem_filterMap.1 h
    obtain ⟨hlookup, hkept⟩ := Option.filter_eq_some_iff.1 hpick
    obtain ⟨nodePool, hmem, hname, hkey, hpair⟩ := nameOf_some hlookup
    exact .inr ⟨not_not.1 hop, by simpa using hkept, nodePool, hmem, hname, hkey, hpair ▸ hvalue⟩

/-! ## The affinity -/

/-- The node pools that the affinity names. -/
def namedInTerms (cfg : PodGroupAssignerConfig) (c : Cluster) (affinity : Affinity) : List String :=
  (nodeSelectorTerms (some affinity)).flatMap fun term =>
    getNodePoolsForTerm cfg (getNodePoolsMap c.nodePools.items) [] term.matchExpressions

theorem convertNodeAffinityToNodePoolNames_ok {c : Cluster} {affinity : Affinity} {names : List String}
    (h : convertNodeAffinityToNodePoolNames cfg c affinity = .ok names) :
    names = removeDuplicates (namedInTerms cfg c affinity) := by
  unfold convertNodeAffinityToNodePoolNames at h
  unfold namedInTerms nodeSelectorTerms
  rw [Option.bind_some]
  split at h
  · rename_i hnone
    cases h
    rw [hnone]
    rfl
  · rename_i hempty
    cases h
    rw [hempty]
    rfl
  · rename_i term terms hterms
    obtain ⟨allNodePools, hall, h⟩ := bind_ok h
    have hitems : allNodePools = c.nodePools.items := by
      unfold getAllNodePools Cluster.attempt at hall
      split at hall
      · cases hall
      · split at hall
        · cases hall
        · exact (Except.ok.inj hall).symm
    subst hitems
    have hterm : (fun result (term : NodeSelectorTerm) =>
        getNodePoolsForTerm cfg (getNodePoolsMap c.nodePools.items) result term.matchExpressions) =
        fun result term => result ++ getNodePoolsForTerm cfg (getNodePoolsMap c.nodePools.items) [] term.matchExpressions :=
      funext₂ fun result term => getNodePoolsForTerm_eq result term.matchExpressions
    rw [hterms, Option.getD_some, List.flatMap_eq_foldl, ← hterm]
    exact (Except.ok.inj h).symm

theorem convertNodeAffinityToNodePoolNames_eq {c : Cluster} (hlist : c.fault .affinityNodePools = none)
    (hsome : c.nodePools.items ≠ []) (affinity : Affinity) :
    convertNodeAffinityToNodePoolNames cfg c affinity = .ok (removeDuplicates (namedInTerms cfg c affinity)) := by
  have hall : getAllNodePools c = .ok c.nodePools.items := by
    rw [getAllNodePools, Cluster.attempt, hlist]
    exact if_neg (by simpa using hsome)
  have hok : ∃ names, convertNodeAffinityToNodePoolNames cfg c affinity = .ok names := by
    unfold convertNodeAffinityToNodePoolNames
    rw [hall]
    split
    · exact ⟨_, rfl⟩
    · exact ⟨_, rfl⟩
    · exact ⟨_, rfl⟩
  obtain ⟨names, hnames⟩ := hok
  rw [hnames, convertNodeAffinityToNodePoolNames_ok hnames]

end

end Krm.PodGroups
