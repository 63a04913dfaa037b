import Krm.PodGroups.Objects

/-! # The node pools that a workload requests -/

open Krm.Lib

namespace Krm.PodGroups

/-- An absent or empty label stands for the default node pool. -/
def getNodePoolNameFromLabels (labels : Labels) (nodePoolAssignmentLabelKey defaultNodepoolName : String) : String :=
  match labels.lookup nodePoolAssignmentLabelKey with
  | some nodePoolName => if nodePoolName = "" then defaultNodepoolName else nodePoolName
  | none => defaultNodepoolName

section

variable (cfg : PodGroupAssignerConfig) (c : Cluster)

def getAllNodePools : Except RunError (List NodePool) :=
  c.attempt .affinityNodePools <|
    if c.nodePools.items.isEmpty then .error (.message "didn't find any node pools in the cluster")
    else .ok c.nodePools.items

/-- A map from label keys to maps from label values to names. -/
abbrev NodePoolsMap := Finmap (fun _ : String => Labels)

/-- Names by label pair, of two the later, and the deleted ones with their phase. -/
def getNodePoolsMap (allNodePools : List NodePool) : NodePoolsMap × Labels :=
  allNodePools.foldl
    (fun (nodePoolKeyToValueToName, deletingNodePools) nodePool =>
      let key := nodePool.labelKey
      let valueToName := (nodePoolKeyToValueToName.lookup key).getD ∅
      (nodePoolKeyToValueToName.insert key (valueToName.insert nodePool.labelValue nodePool.name),
        if nodePool.phase = .deleting then deletingNodePools.insert nodePool.name "Deleting" else deletingNodePools))
    (∅, ∅)

def removeDuplicates (list : List String) : List String :=
  list.foldl (fun result item => if item ∈ result then result else result ++ [item]) []

def getNodePoolsForMatchExpression (matchExpression : NodeSelectorRequirement) (nodePoolKeyToValueToName : NodePoolsMap)
    (deletingNodePools : Labels) (result : List String) : List String × Bool :=
  if matchExpression.operator ≠ .in then
    if matchExpression.operator = .doesNotExist && matchExpression.key = cfg.nodePoolLabelKey then
      (result ++ [cfg.defaultNodepoolName], true)
    else (result, false)
  else
    match nodePoolKeyToValueToName.lookup matchExpression.key with
    | none => (result, false)
    | some nodePoolsWithKeyMap =>
      matchExpression.values.foldl
        (fun (result, foundNodePools) matchExpressionValue =>
          match nodePoolsWithKeyMap.lookup matchExpressionValue with
          | none => (result, foundNodePools)
          | some nodePoolName =>
            if (deletingNodePools.lookup nodePoolName).isSome then (result, foundNodePools)
            else (result ++ [nodePoolName], true))
        (result, false)

def getNodePoolsForTerm (maps : NodePoolsMap × Labels) (result : List String) :
    List NodeSelectorRequirement → List String
  | [] => result
  | matchExpression :: matchExpressions =>
    match getNodePoolsForMatchExpression cfg matchExpression maps.1 maps.2 result with
    | (result, true) => result
    | (result, false) => getNodePoolsForTerm maps result matchExpressions

def convertNodeAffinityToNodePoolNames (affinity : Affinity) : Except RunError (List String) :=
  match affinity.nodeAffinity.bind NodeAffinity.requiredDuringSchedulingIgnoredDuringExecution with
  | none => .ok []
  | some [] => .ok []
  | some (term :: terms) => do
    let allNodePools ← getAllNodePools c
    let maps := getNodePoolsMap allNodePools
    let result := (term :: terms).foldl (fun result term => getNodePoolsForTerm cfg maps result term.matchExpressions) []
    .ok (removeDuplicates result)

structure NodePoolsSources where
  podAnnotations : Labels
  affinity : Option Affinity
  ignoreConversionErrors : Bool
  /-- The default node pools of the project, when there is one. -/
  project : Option (List String)

/-- None when it cannot be converted and that is to be ignored. -/
def requestedNodePoolsFromAffinity (sources : NodePoolsSources) : Except RunError (List String) :=
  match sources.affinity with
  | none => .ok []
  | some affinity =>
    match convertNodeAffinityToNodePoolNames cfg c affinity with
    | .ok names => .ok names
    | .error e => if sources.ignoreConversionErrors then .ok [] else .error (.nodeAffinityConversion e)

/-- The annotation, the affinity, the label, the project's defaults, the default pool. -/
def getRequestedNodePools (labels : Labels) (sources : NodePoolsSources) : Except RunError (List String) := do
  let nodePoolsAnnotation := sources.podAnnotations.value cfg.annotationNodepoolsKey
  if nodePoolsAnnotation ≠ "" then .ok ((String.toList nodePoolsAnnotation |>.splitOn ' ').map String.ofList)
  else
    let fromAffinity ← requestedNodePoolsFromAffinity cfg c sources
    if fromAffinity ≠ [] then .ok fromAffinity
    else
      let fromProject := sources.project.getD []
      let fallback := if fromProject ≠ [] then fromProject else [cfg.defaultNodepoolName]
      match labels.lookup cfg.nodePoolLabelKey with
      | some nodePoolName => if nodePoolName ≠ cfg.unexistingNodepoolSentinel then .ok [nodePoolName] else .ok fallback
      | none => .ok fallback

/-- The first pod of the group speaks for all. -/
def getRequestedNodePoolsOfPods (podGroup : PodGroup) : List Pod → Except RunError (List String)
  | [] => .error (.message ("didn't find any pods for pod group <" ++ podGroup.namespaceName ++ "/" ++ podGroup.name ++
      ">"))
  | podFromPodGroup :: _ =>
    getRequestedNodePools cfg c podGroup.labels
      { podAnnotations := podFromPodGroup.annotations
        affinity := podFromPodGroup.affinity
        ignoreConversionErrors := false
        project := none }

end

end Krm.PodGroups
