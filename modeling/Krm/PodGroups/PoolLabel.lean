import Krm.PodGroups.AddedAffinity
import Krm.PodGroups.Conversion
import Krm.PodGroups.Handoff
import Mathlib.Data.List.ReduceOption

/-! # A node pool's label on a pod -/

open Krm.Lib

namespace Krm.PodGroups

open PodMutator

section

variable {cfg : PodGroupAssignerConfig}

/-! ## A label on the pod -/

/-- The node pools that a term names by expressions on other keys. -/
def namedElsewhere (cfg : PodGroupAssignerConfig) (c : Cluster) (key : String) (term : NodeSelectorTerm) : List String :=
  getNodePoolsForTerm cfg (getNodePoolsMap c.nodePools.items) [] (term.matchExpressions.filter fun expr => expr.key ≠ key)

theorem forall_startTerms_iff {affinity : Option Affinity} {c : Cluster} {key name : String}
    (hempty : namedElsewhere cfg c key ⟨[], []⟩ = []) :
    (∀ term ∈ startTerms affinity, ∀ other ∈ namedElsewhere cfg c key term, other = name) ↔
      ∀ term ∈ nodeSelectorTerms affinity, ∀ other ∈ namedElsewhere cfg c key term, other = name := by
  unfold startTerms
  split_ifs with h
  · simp [h, hempty]
  · exact Iff.rfl

section

variable {c : Cluster} (hlist : c.fault .affinityNodePools = none)

include hlist

theorem convert_added_iff (hsome : c.nodePools.items ≠ []) {expr : NodeSelectorRequirement} {name : String}
    (hnamed : named cfg (getNodePoolsMap c.nodePools.items) expr = [name]) (affinity : Option Affinity) :
    convertNodeAffinityToNodePoolNames cfg c (addNodeAffinityToPodSpec affinity [expr]) = .ok [name] ↔
      ∀ term ∈ nodeSelectorTerms affinity, ∀ other ∈ namedElsewhere cfg c expr.key term, other = name := by
  have hadded : ∀ term : NodeSelectorTerm,
      getNodePoolsForTerm cfg (getNodePoolsMap c.nodePools.items) [] (replaced expr term).matchExpressions =
        if namedElsewhere cfg c expr.key term = [] then [name] else namedElsewhere cfg c expr.key term := by
    intro term
    rw [← hnamed]
    exact getNodePoolsForTerm_concat _ _
  have hterms : namedInTerms cfg c (addNodeAffinityToPodSpec affinity [expr]) =
      (startTerms affinity).flatMap fun term => getNodePoolsForTerm cfg (getNodePoolsMap c.nodePools.items) []
        (replaced expr term).matchExpressions := by
    rw [namedInTerms, nodeSelectorTerms_added affinity (List.cons_ne_nil _ _), List.flatMap_singleton, List.flatMap_map]
  rw [convertNodeAffinityToNodePoolNames_eq hlist hsome, hterms, Except.ok.injEq, removeDuplicates_eq_singleton,
    ← forall_startTerms_iff rfl]
  simp only [hadded]
  constructor
  · rintro ⟨-, hall⟩ term hterm other hother
    refine hall other (List.mem_flatMap.2 ⟨term, hterm, ?_⟩)
    rw [if_neg (List.ne_nil_of_mem hother)]
    exact hother
  · intro hall
    refine ⟨?_, ?_⟩
    · obtain ⟨term, hterm⟩ := List.exists_mem_of_ne_nil _ (startTerms_ne affinity)
      rw [Ne, List.flatMap_eq_nil_iff]
      intro hnone
      have hempty := hnone term hterm
      split_ifs at hempty
      contradiction
    · intro other hother
      obtain ⟨term, hterm, hother⟩ := List.mem_flatMap.1 hother
      split_ifs at hother
      · exact List.mem_singleton.1 hother
      · exact hall term hterm other hother

end

end

section

variable {pm : PodMutator} {nodePool : NodePool}

/-- The key of a node pool's expression. -/
def poolKey (pm : PodMutator) (nodePool : NodePool) : String :=
  if nodePool.name = pm.config.defaultNodepoolName then pm.config.nodePoolLabelKey else nodePool.labelKey

theorem createMatchExpressionForNodePool_ok (hcalls : ∀ call, pm.fault call = none)
    (hpairs : PairsDistinct pm.cluster.nodePools.items) (hmem : nodePool ∈ pm.cluster.nodePools.items) (hphase : nodePool.phase ≠ .deleting) :
    ∃ expr, pm.createMatchExpressionForNodePool nodePool.name = .ok (some expr) ∧ expr.key = poolKey pm nodePool ∧
      named pm.config.toPodGroupAssignerConfig (getNodePoolsMap pm.cluster.nodePools.items) expr = [nodePool.name] := by
  unfold createMatchExpressionForNodePool poolKey
  split_ifs with hdefault
  · exact ⟨_, rfl, rfl, by simp [named, hdefault]⟩
  · have hget : pm.cluster.nodePools.get nodePool.name = some nodePool := Store.get_of_mem hmem
    have hread : (pm.reading (.nodePoolFields nodePool.name)).getNodePool .currentNodePool nodePool.name = .ok nodePool := by
      simp [reading, Cluster.getNodePool, Cluster.attempt, hcalls, hget, Cluster.found, Lib.found]
    refine ⟨⟨nodePool.labelKey, .in, [nodePool.labelValue]⟩, by simp [hread, hphase], rfl, ?_⟩
    have hkept := (kept_lookup hmem).2 hphase
    have hname := nameOf_pair hpairs hmem
    unfold nameOf at hname
    simp [named, pick, hname, hkept, Option.filter]

variable {expr : NodeSelectorRequirement} (pod : SubmittedPod)

theorem mutateProjectNameLabel_affinity (name : String) :
    (pm.mutateProjectNameLabel pod name).affinity = pod.affinity := by
  unfold mutateProjectNameLabel
  split
  · rfl
  · split
    · rfl
    · rfl

theorem mutateProjectNameLabel_lookup {pod : SubmittedPod} {key value : String} (h : pod.labels.lookup key = some value)
    (name : String) : (pm.mutateProjectNameLabel pod name).labels.lookup key = some value := by
  unfold mutateProjectNameLabel
  split
  · exact h
  · rename_i habsent
    split
    · exact h
    · have hne : key ≠ pm.config.podProjectLabelKey := by
        rintro rfl
        rw [h] at habsent
        cases habsent
      exact (Finmap.lookup_insert_of_ne _ hne).trans h

theorem mutateSchedulerName_keeps :
    (pm.mutateSchedulerName pod).affinity = pod.affinity ∧ (pm.mutateSchedulerName pod).labels = pod.labels := by
  unfold mutateSchedulerName
  split_ifs
  · exact ⟨rfl, rfl⟩
  · exact ⟨rfl, rfl⟩

theorem PodMutator.setNodeAffinityForNodePools_single {nodePoolName : String}
    (h : pm.createMatchExpressionForNodePool nodePoolName = .ok (some expr)) :
    pm.setNodeAffinityForNodePools pod [nodePoolName] =
      .ok { pod with affinity := some (addNodeAffinityToPodSpec pod.affinity [expr]) } := by
  simp [setNodeAffinityForNodePools, h, bind, Except.bind, pure, Except.pure, List.reduceOption_cons_of_some,
    List.reduceOption_nil]

theorem PodMutator.mutateNodeAffinityForDefaultNodePools_labelled {name projectName nodePoolName : String}
    (hproject : getProjectNameOfNamespace pm.config.toPodGroupAssignerConfig (pm.reading .affinityNamespace) name =
      .ok projectName)
    (hlabel : pod.labels.lookup pm.config.nodePoolLabelKey = some nodePoolName)
    (hexpr : pm.createMatchExpressionForNodePool nodePoolName = .ok (some expr)) :
    pm.mutateNodeAffinityForDefaultNodePools pod name =
      { pod with affinity := some (addNodeAffinityToPodSpec pod.affinity [expr]) } := by
  unfold mutateNodeAffinityForDefaultNodePools
  rw [hproject]
  dsimp only
  rw [hlabel]
  dsimp only
  rw [setNodeAffinityForNodePools_single pod hexpr]
  rfl

theorem getProjectNameOfNamespace_found (hcalls : ∀ call, pm.fault call = none) {name projectName : String}
    {namespaceObj : Namespace} (hget : pm.cluster.namespaces.get name = some namespaceObj)
    (hproject : namespaceObj.labels.lookup pm.config.namespaceProjectLabelKey = some projectName) (call : MutatorCall) :
    getProjectNameOfNamespace pm.config.toPodGroupAssignerConfig (pm.reading call) name = .ok projectName := by
  simp [getProjectNameOfNamespace, reading, Cluster.getNamespace, Cluster.attempt, hcalls, hget, hproject, Cluster.found, Lib.found]

theorem mutate_labelled (hcalls : ∀ call, pm.fault call = none) {pod : SubmittedPod} {name nodePoolName : String}
    (hproject : ∃ namespaceObj, pm.cluster.namespaces.get name = some namespaceObj ∧
      (namespaceObj.labels.lookup pm.config.namespaceProjectLabelKey).isSome)
    (hlabel : pod.labels.lookup pm.config.nodePoolLabelKey = some nodePoolName)
    (hexpr : pm.createMatchExpressionForNodePool nodePoolName = .ok (some expr)) :
    (pm.mutate pod name).affinity = some (addNodeAffinityToPodSpec pod.affinity [expr]) := by
  obtain ⟨namespaceObj, hget, hproject⟩ := hproject
  obtain ⟨projectName, hproject⟩ := Option.isSome_iff_exists.1 hproject
  have hname := getProjectNameOfNamespace_found hcalls hget hproject .affinityNamespace
  have hlabel' : (pm.mutateProjectNameLabel (pm.mutateSchedulerName pod) name).labels.lookup pm.config.nodePoolLabelKey =
      some nodePoolName := by
    refine mutateProjectNameLabel_lookup ?_ name
    rw [(mutateSchedulerName_keeps pod).2, hlabel]
  rw [mutate, mutateNodeAffinityForDefaultNodePools_labelled _ hname hlabel' hexpr, mutateProjectNameLabel_affinity,
    (mutateSchedulerName_keeps pod).1]

theorem PodMutator.handle_patched {requestNamespace : String} {pod mutated : SubmittedPod}
    (h : pm.handle requestNamespace pod = .patched mutated) :
    mutated = pm.mutate pod (if requestNamespace = "" then pod.namespaceName else requestNamespace) := by
  unfold handle at h
  dsimp only at h
  split at h
  · exact (Response.patched.inj h).symm
  · split at h
    · cases h
    · cases h
    · exact (Response.patched.inj h).symm

/-- The label's pool is asked for exactly if no term names one on another key. -/
theorem pool_label_wins_iff (hcalls : ∀ call, pm.fault call = none)
    (hlist : pm.cluster.fault .affinityNodePools = none)
    (hpairs : ∀ first ∈ pm.cluster.nodePools.items, ∀ second ∈ pm.cluster.nodePools.items,
      first.labelKey = second.labelKey → first.labelValue = second.labelValue → first = second)
    (hmem : nodePool ∈ pm.cluster.nodePools.items) (hphase : nodePool.phase ≠ .deleting) {requestNamespace : String}
    {pod mutated : SubmittedPod}
    (hproject : ∃ namespaceObj, pm.cluster.namespaces.get
        (if requestNamespace = "" then pod.namespaceName else requestNamespace) = some namespaceObj ∧
      (namespaceObj.labels.lookup pm.config.namespaceProjectLabelKey).isSome)
    (hlabel : pod.labels.lookup pm.config.nodePoolLabelKey = some nodePool.name)
    (hmutated : pm.handle requestNamespace pod = .patched mutated) :
    ∃ affinity, mutated.affinity = some affinity ∧
      (convertNodeAffinityToNodePoolNames pm.config.toPodGroupAssignerConfig pm.cluster affinity = .ok [nodePool.name] ↔
        ∀ term ∈ nodeSelectorTerms pod.affinity, ∀ name ∈ namedElsewhere pm.config.toPodGroupAssignerConfig pm.cluster
          (poolKey pm nodePool) term, name = nodePool.name) := by
  obtain ⟨expr, hexpr, hkey, hnamed⟩ := createMatchExpressionForNodePool_ok hcalls hpairs hmem hphase
  refine ⟨addNodeAffinityToPodSpec pod.affinity [expr], ?_, ?_⟩
  · rw [handle_patched hmutated]
    exact mutate_labelled hcalls hproject hlabel hexpr
  · rw [← hkey]
    exact convert_added_iff hlist (List.ne_nil_of_mem hmem) hnamed pod.affinity

end

/-! ## Two keys -/

namespace Sample

/-- Node pools with the given keys. -/
def pools (trainKey inferKey : String) : List NodePool :=
  [⟨"train", trainKey, "train", .ready, "", train_ne⟩, ⟨"infer", inferKey, "infer", .ready, "", infer_ne⟩]

theorem pools_nodup (trainKey inferKey : String) : ((pools trainKey inferKey).map NodePool.name).Nodup := by simp [pools]

def mutator (trainKey inferKey : String) : PodMutator where
  config := ⟨config, "kai.resources/enforce-scheduler-name", "kai-scheduler", "project"⟩
  cluster := { cluster .ready with nodePools := ⟨pools trainKey inferKey, pools_nodup trainKey inferKey⟩ }
  namespaceAnnotations := fun _ => ∅
  defaultNodePools := fun _ => []
  fault := fun _ => none

/-- A pod with the label of one node pool and an affinity to the other. -/
def labelled (inferKey : String) : SubmittedPod where
  toPod := { pod with affinity := some ⟨some ⟨some [⟨[⟨inferKey, .in, ["infer"]⟩], []⟩]⟩⟩ }
  labels := (∅ : Labels).insert "kai.scheduler/node-pool" "train"
  schedulerName := "kai-scheduler"

end Sample

open Sample in
theorem label_wins_over_same_key :
    ∃ affinity, ((mutator "pool" "pool").mutate (labelled "pool") "ns").affinity = some affinity ∧
      convertNodeAffinityToNodePoolNames config (mutator "pool" "pool").cluster affinity = .ok ["train"] := by
  -- The affinity gives way to the label if both node pools use one key.
  have hpairs : PairsDistinct (pools "pool" "pool") := by simp [PairsDistinct, pools]
  have hproject : ∃ namespaceObj, (mutator "pool" "pool").cluster.namespaces.get "ns" = some namespaceObj ∧
      (namespaceObj.labels.lookup "kai/project").isSome := ⟨_, rfl, by decide⟩
  have hmutated : (mutator "pool" "pool").handle "ns" (labelled "pool") =
      .patched ((mutator "pool" "pool").mutate (labelled "pool") "ns") := rfl
  obtain ⟨affinity, haffinity, hiff⟩ :=
    pool_label_wins_iff (fun _ => rfl) rfl hpairs List.mem_cons_self (by decide) hproject rfl hmutated
  refine ⟨affinity, haffinity, hiff.2 ?_⟩
  intro term hterm name hname
  rw [List.mem_singleton.1 hterm] at hname
  cases hname

open Sample in
/-- An expression on another key stays in front of the label's. -/
theorem affinity_wins_over_label :
    ∃ mutated affinity, (mutator "pool" "zone").handle "ns" (labelled "zone") = .patched mutated ∧
      mutated.affinity = some affinity ∧
      convertNodeAffinityToNodePoolNames config (mutator "pool" "zone").cluster affinity = .ok ["infer"] :=
  ⟨_, _, rfl, rfl, rfl⟩

end Krm.PodGroups
