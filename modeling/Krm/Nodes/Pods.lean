import Krm.Nodes.NodeHandler

/-! # The pods that keep a node in its pool -/

open Krm.Lib

namespace Krm.Nodes

section

variable (cfg : NodePoolControllerConfig)

/-- The node-pool label of what belongs to a pool. -/
def poolLabel (nodePoolName : String) : Option String :=
  if nodePoolName = cfg.defaultNodepoolName then none else some nodePoolName

/-- A running KAI pod whose own PodGroup carries the pod's pool. -/
def isCharged (podGroups : Store PodGroup.key) (nodeName nodePoolName : String) (pod : Pod) : Bool :=
  pod.schedulerName = cfg.schedulerName && isPodBoundToNode pod && pod.nodeName = nodeName &&
    pod.labels.lookup cfg.nodePoolNameLabel = poolLabel cfg nodePoolName &&
    (pod.podGroupAnnotation.bind fun g => podGroups.get (pod.namespaceName, g)).any fun podGroup =>
      podGroup.labels.lookup cfg.nodePoolNameLabel = poolLabel cfg nodePoolName

def podsOn (pods : List Pod) (nodeName nodePoolName : String) : List Pod :=
  pods.filter fun pod => podRunningWithKaiSchedulerNodeName cfg pod = nodeName &&
    pod.labels.lookup cfg.nodePoolNameLabel = poolLabel cfg nodePoolName

/-- The PodGroup judged for some group name carries the pool's label. -/
def Counted (pods : List Pod) (podGroups : Store PodGroup.key) (nodeName nodePoolName : String) : Prop :=
  ∃ g first podGroup,
    (podsOn cfg pods nodeName nodePoolName).find? (fun pod => pod.podGroupAnnotation = some g) = some first ∧
    podGroups.get (first.namespaceName, g) = some podGroup ∧
    podGroup.labels.lookup cfg.nodePoolNameLabel = poolLabel cfg nodePoolName

end

/-- Every read that has something to return returns it. -/
def Cluster.ReadsSucceed (c : Cluster) : Prop := ∀ call, call.isRead → c.fault call = none

variable {cfg : NodePoolControllerConfig} {c : Cluster}

theorem newRequirement_of_valid {key : String} {op : Operator} {vals : List String} (hkey : isLabelKey key)
    (harity : op.Arity vals.length) (hvals : vals.all isLabelValue) :
    newRequirement key op vals = .ok ⟨key, op, vals⟩ := by
  simp [newRequirement, Lib.newRequirement, hkey, harity, hvals]

theorem getNodePoolLabelSelector_valid {nodePoolName : String}
    (hvalid : nodePoolName ≠ cfg.defaultNodepoolName → isLabelValue nodePoolName) :
    ∃ r, getNodePoolLabelSelector cfg nodePoolName = .ok r ∧
      ∀ labels : Labels, r.Matches labels ↔ labels.lookup cfg.nodePoolNameLabel = poolLabel cfg nodePoolName := by
  unfold getNodePoolLabelSelector poolLabel
  split_ifs with hdefault
  · refine ⟨⟨cfg.nodePoolNameLabel, .doesNotExist, []⟩, ?_, fun labels => Requirement.matches_doesNotExist ..⟩
    change newRequirement cfg.nodePoolNameLabel .doesNotExist [] = _
    exact newRequirement_of_valid cfg.key_valid rfl List.all_nil
  · refine ⟨⟨cfg.nodePoolNameLabel, .doubleEquals, [nodePoolName]⟩, ?_, fun labels => ?_⟩
    · exact newRequirement_of_valid cfg.key_valid rfl (by simpa using hvalid hdefault)
    · exact Requirement.matches_doubleEquals ..

theorem sameNodePoolLabel_iff (pod : Pod) (podGroup : PodGroup) :
    sameNodePoolLabel cfg pod podGroup ↔
      pod.labels.lookup cfg.nodePoolNameLabel = podGroup.labels.lookup cfg.nodePoolNameLabel := by
  unfold sameNodePoolLabel Labels.value
  cases pod.labels.lookup cfg.nodePoolNameLabel <;> cases podGroup.labels.lookup cfg.nodePoolNameLabel <;> simp

theorem getPodGroup_ok_iff (hreads : c.ReadsSucceed) (namespaceName name : String) (podGroup : PodGroup) :
    getPodGroup c namespaceName name = .ok podGroup ↔ c.podGroups.get (namespaceName, name) = some podGroup := by
  unfold getPodGroup
  rw [hreads _ rfl]
  cases c.podGroups.get (namespaceName, name) <;> simp

theorem filterGroup_ne_nil_iff (hreads : c.ReadsSucceed) {label : Option String} {g : String} {pods : List Pod}
    (hlabel : ∀ pod ∈ pods, pod.labels.lookup cfg.nodePoolNameLabel = label) :
    filterGroup cfg c g pods ≠ [] ↔ ∃ first podGroup, pods.head? = some first ∧
      c.podGroups.get (first.namespaceName, g) = some podGroup ∧
      podGroup.labels.lookup cfg.nodePoolNameLabel = label := by
  cases pods with
  | nil => simp [filterGroup]
  | cons first rest =>
    cases hget : getPodGroup c first.namespaceName g with
    | error e =>
      have hnone : ∀ podGroup, c.podGroups.get (first.namespaceName, g) ≠ some podGroup := by
        intro podGroup h
        rw [(getPodGroup_ok_iff hreads ..).2 h] at hget
        cases hget
      simp [filterGroup, hget, hnone]
    | ok podGroup =>
      have hstored := (getPodGroup_ok_iff hreads ..).1 hget
      have hkept : ((first :: rest).filter (sameNodePoolLabel cfg · podGroup) ≠ []) ↔
          podGroup.labels.lookup cfg.nodePoolNameLabel = label := by
        rw [Ne, List.filter_eq_nil_iff]
        push Not
        constructor
        · rintro ⟨pod, hpod, hsame⟩
          rw [← hlabel pod hpod]
          exact ((sameNodePoolLabel_iff pod podGroup).1 hsame).symm
        · intro h
          refine ⟨first, by simp, (sameNodePoolLabel_iff first podGroup).2 ?_⟩
          rw [h, hlabel first (by simp)]
      have hfilter : filterGroup cfg c g (first :: rest) =
          (first :: rest).filter (sameNodePoolLabel cfg · podGroup) := by
        simp only [filterGroup, hget]
      rw [hfilter, hkept]
      constructor
      · exact fun h => ⟨first, podGroup, rfl, hstored, h⟩
      · rintro ⟨first', podGroup', hfirst, hstored', h⟩
        cases hfirst
        rw [hstored, Option.some.injEq] at hstored'
        exact hstored' ▸ h

theorem filterPods_ne_nil_iff (hreads : c.ReadsSucceed) {label : Option String} {pods : List Pod}
    (hlabel : ∀ pod ∈ pods, pod.labels.lookup cfg.nodePoolNameLabel = label) :
    filterPodsWithIncorrectNodepoolLabel cfg c pods ≠ [] ↔ ∃ g first podGroup,
      pods.find? (fun pod => pod.podGroupAnnotation = some g) = some first ∧
      c.podGroups.get (first.namespaceName, g) = some podGroup ∧
      podGroup.labels.lookup cfg.nodePoolNameLabel = label := by
  have hgroup : ∀ g, filterGroup cfg c g (pods.filter fun pod => pod.podGroupAnnotation = some g) ≠ [] ↔
      ∃ first podGroup, pods.find? (fun pod => pod.podGroupAnnotation = some g) = some first ∧
        c.podGroups.get (first.namespaceName, g) = some podGroup ∧
        podGroup.labels.lookup cfg.nodePoolNameLabel = label := by
    intro g
    rw [filterGroup_ne_nil_iff hreads fun pod hpod => hlabel pod (List.mem_of_mem_filter hpod), List.head?_filter]
  unfold filterPodsWithIncorrectNodepoolLabel
  rw [Ne, List.flatMap_eq_nil_iff]
  push Not
  constructor
  · rintro ⟨g, -, hkept⟩
    exact ⟨g, (hgroup g).1 hkept⟩
  · rintro ⟨g, first, hkept⟩
    refine ⟨g, ?_, (hgroup g).2 ⟨first, hkept⟩⟩
    obtain ⟨podGroup, hfirst, -⟩ := hkept
    rw [List.mem_dedup, List.mem_filterMap]
    exact ⟨first, List.mem_of_find?_eq_some hfirst, by simpa using List.find?_some hfirst⟩

theorem arePodsRunningWithSameNodePool_ok (hreads : c.ReadsSucceed) (nodeName : String) {nodePoolName : String}
    (hvalid : nodePoolName ≠ cfg.defaultNodepoolName → isLabelValue nodePoolName) :
    ∃ running, arePodsRunningWithSameNodePool cfg c nodeName nodePoolName = .ok running ∧
      (running = true ↔ Counted cfg c.pods c.podGroups nodeName nodePoolName) := by
  obtain ⟨r, hr, hmatches⟩ := getNodePoolLabelSelector_valid hvalid
  have hlist : listPodsWithSelectors cfg c nodeName r = .ok (podsOn cfg c.pods nodeName nodePoolName) := by
    unfold listPodsWithSelectors Cluster.attempt podsOn
    rw [hreads _ rfl]
    simp only [Except.ok.injEq]
    apply List.filter_congr
    intro pod _
    rw [Bool.eq_iff_iff]
    simp only [Bool.and_eq_true, hmatches, decide_eq_true_eq]
  have hanswer : arePodsRunningWithSameNodePool cfg c nodeName nodePoolName =
      .ok (!(filterPodsWithIncorrectNodepoolLabel cfg c (podsOn cfg c.pods nodeName nodePoolName)).isEmpty) := by
    simp only [arePodsRunningWithSameNodePool, arePodsRunningWithNodePool, getRunningPodsWithNodePoolOnNode, if_true,
      hr, hlist, bind, Except.bind, pure, Except.pure]
  refine ⟨_, hanswer, ?_⟩
  rw [Bool.not_eq_true', List.isEmpty_eq_false_iff]
  refine filterPods_ne_nil_iff hreads fun pod hpod => ?_
  have hboth := (List.mem_filter.1 hpod).2
  simp only [Bool.and_eq_true, decide_eq_true_eq] at hboth
  exact hboth.2

end Krm.Nodes
