import Krm.Nodes.PoolStatus

/-! # The reconcile of a NodePool as a whole -/

open Krm.Lib

namespace Krm.Nodes

section

variable (cfg : NodePoolControllerConfig) (c : Cluster) (env : Surroundings)

/-! ## The status -/

def schedulerNotReadyMessage : String := "Scheduler is not ready"
def nodesDrainedMessage : String := "Nodes Being Drained"
def errorDeletingMessage : String := "Error Deleting NodePool"

def getMissingNodeLabelsAgainstNodeLevels (node : Node) (topologyLevels : List String) : List String :=
  topologyLevels.filter fun level => (node.labels.lookup level).isNone

def getTopologyMismatchNodes (nodePool : StoredNodePool) (nodes : List Node) : Except ApiError (List String) :=
  let topologyName := nodePool.preferredNetworkTopologyName
  if topologyName = "" then .ok []
  else
    match env.fault (.getTopology topologyName), env.topologyLevels topologyName with
    | some e, _ => .error e
    | none, none => .error (.notFound topologyName)
    | none, some levels =>
      .ok ((nodes.filter fun node => !(getMissingNodeLabelsAgainstNodeLevels node levels).isEmpty).map Node.name)

def updateNodesTopologyMismatch (mismatchNodes : List String) (nodesInNodePool : List NodeInNodePool) :
    List NodeInNodePool :=
  nodesInNodePool.map fun node => { node with topologyMismatch := decide (node.name ∈ mismatchNodes) }

/-- The names in the phase message; none when they cannot be listed. -/
def phaseMessageNodes (nodePool : NodePool) (nodePoolNodes : List Node) (nodes : NodeStore) (details : Details) :
    PhaseMessageNodes :=
  match getNodesFullSituationForFullPhaseMessage cfg c nodePool nodePoolNodes nodes details with
  | .error _ => ⟨[], [], []⟩
  | .ok names => names

def getNodePoolStatusByNodes (nodePool : StoredNodePool) (nodePoolNodes : List Node) (nodes : NodeStore)
    (details : Details) : List ApiError × NodePoolStatus :=
  let situation := getNodesSituation details nodePoolNodes
  let missing := situation.missingNrtPrerequisiteItems
  let phase := nodePoolPhaseForNodeSituation situation.atLeastOneNodeReady situation.atLeastOneNodeUnschedulable
    (!missing.isEmpty)
  let message := joinNodePoolStatusMessages
    [(phaseMessageNodes cfg c nodePool.toNodePool nodePoolNodes nodes details).text, nrtNodePoolPrereqMessage missing]
  let conditions := setNodePoolCondition nodePool.conditions
    ⟨.missingNrtHealthyPrerequisite, !missing.isEmpty, nrtNodePoolPrereqMessage missing⟩
  match getTopologyMismatchNodes env nodePool nodePoolNodes with
  | .error e => ([e], ⟨phase, message, situation.nodesInNodePool, conditions⟩)
  | .ok mismatchNodes =>
    ([], ⟨phase, message, updateNodesTopologyMismatch mismatchNodes situation.nodesInNodePool,
      setNodePoolCondition conditions ⟨.nodeTopologyMismatch, !mismatchNodes.isEmpty, ""⟩⟩)

def calculateNodePoolStatus (nodePool : StoredNodePool) (nodePoolNodes : List Node) (nodes : NodeStore)
    (details : Details) : List ApiError × NodePoolStatus :=
  let unschedulable (message : String) : List ApiError × NodePoolStatus :=
    ([], ⟨.unschedulable, message, (getNodesSituation details nodePoolNodes).nodesInNodePool, nodePool.conditions⟩)
  match env.schedulerStatus with
  | .error (.failed _) => unschedulable schedulerNotReadyMessage
  | .error (.unresolvable message) => unschedulable (schedulerNotReadyMessage ++ ", reason: " ++ message)
  | .ok status =>
    if !status.ready then
      unschedulable (schedulerNotReadyMessage ++ ", reason: " ++ ", ".intercalate status.reasons)
    else getNodePoolStatusByNodes cfg c env nodePool nodePoolNodes nodes details

def isNodeInNodepoolEqual (left right : List NodeInNodePool) : Bool :=
  left.length = right.length && right.all fun node =>
    (left.reverse.find? fun other => other.name = node.name) = some node

def isNodePoolConditionsEqual (left right : List NodePoolCondition) : Bool :=
  left.length = right.length && right.all fun condition =>
    (left.reverse.find? fun other => other.type = condition.type) = some condition

def isStatusEqual (left right : NodePoolStatus) : Bool :=
  left.phase = right.phase && left.message = right.message && isNodePoolConditionsEqual left.conditions right.conditions
    && isNodeInNodepoolEqual left.nodes right.nodes

def updateNodePoolStatusIfNeeded (nodePool : StoredNodePool) (status : NodePoolStatus) :
    List ApiError × StoredNodePool :=
  if isStatusEqual status nodePool.status then ([], nodePool)
  else
    match env.fault .patchStatus with
    | some e => ([e], nodePool)
    | none => ([], nodePool.withStatus status)

def calculateGPUNetworkAccelerationDetected (nodePool : StoredNodePool) (nodes : List Node) : Bool :=
  let detection := getGPUNetworkAccelerationDetection nodePool
  if detection = "Use" then true
  else if detection = "Auto" then
    nodes.any fun node => (node.labels.lookup (getGPUNetworkAccelerationLabelKey nodePool)).isSome
  else false

def updateAnnotationStatusFields (nodePool : StoredNodePool) (nodePoolNodes : List Node) :
    List ApiError × StoredNodePool :=
  if getGPUNetworkAccelerationDetection nodePool = "" then ([], nodePool)
  else
    let detected := toString (calculateGPUNetworkAccelerationDetected nodePool nodePoolNodes)
    if nodePool.annotations.lookup detectedKey = some detected then ([], nodePool)
    else
      match env.fault .patchNodePoolAnnotations with
      | some e => ([e], nodePool)
      | none => ([], { nodePool with annotations := nodePool.annotations.insert detectedKey detected })

def reconcileNodePoolStatus (nodePool : StoredNodePool) (resultNodes : List Node) (nodes : NodeStore)
    (details : Details) : List ApiError × StoredNodePool :=
  let nodePoolNodes := filterNodePoolNodes cfg resultNodes nodePool.name
  let (statusErrs, status) := calculateNodePoolStatus cfg c env nodePool nodePoolNodes nodes details
  let (nodepoolErrs, nodePool) := updateNodePoolStatusIfNeeded env nodePool status
  let (annotErrs, nodePool) := updateAnnotationStatusFields env nodePool nodePoolNodes
  (statusErrs ++ nodepoolErrs ++ annotErrs, nodePool)

/-! ## The status of a NodePool that is being deleted -/

def maxProjectNamesInMessage : Nat := 10

def getProjectsReferencingNodePool (nodePoolName : String) : Except ApiError (List String) :=
  env.attempt .listProjects (sortNames
    ((env.projects.filter fun project => project.queues.any fun queue => queue.nodepool = nodePoolName).map Project.name))

def getProjectsReferenceMessage (referencingProjects : List String) : String :=
  if referencingProjects.isEmpty then ""
  else
    let more :=
      if referencingProjects.length > maxProjectNamesInMessage then
        " (and " ++ toString (referencingProjects.length - maxProjectNamesInMessage) ++ " more)"
      else ""
    "NodePool is referenced by the following project(s): " ++
      ", ".intercalate (referencingProjects.take maxProjectNamesInMessage) ++ more

def getNodePoolDeletingMessage (unschedulableNodes : List String) : String :=
  if unschedulableNodes.isEmpty then "" else nodesDrainedMessage ++ ": " ++ ", ".intercalate unschedulableNodes

def getNodePoolDeletionStatus (nodePool : StoredNodePool) (nodePoolNodes : List Node) (details : Details) :
    Except ApiError NodePoolStatus :=
  (getProjectsReferencingNodePool env nodePool.name).map fun referencingProjects =>
    let situation := getNodesSituation details nodePoolNodes
    let projectsMessage := getProjectsReferenceMessage referencingProjects
    { phase :=
        if situation.atLeastOneNodeUnschedulable || !referencingProjects.isEmpty then .deleting else .empty
      message := joinNodePoolStatusMessages [getNodePoolDeletingMessage situation.unschedulableNodes, projectsMessage]
      nodes := situation.nodesInNodePool
      conditions := setNodePoolCondition nodePool.conditions
        ⟨.projectReferencesExist, !referencingProjects.isEmpty, projectsMessage⟩ }

/-! ## The reconcile -/

/-- What the controller writes: nodes, their details, node pools. -/
structure World where
  nodes : NodeStore
  details : Details
  nodePools : Store fun nodePool : StoredNodePool => nodePool.name

/-- The cluster with the node pools as they are stored. -/
def World.cluster (w : World) : Cluster := { c with nodePools := w.nodePools.items.map StoredNodePool.toNodePool }

def reconcileNodePool (nodePool : StoredNodePool) (w : World) : List ApiError × World :=
  let c := w.cluster c
  let pass := reconcileNodes cfg c nodePool.toNodePool w.nodes
  let (resultNodes, nodesErrs, details) := handleNodesOfNodePool cfg env nodePool pass.resultNodes w.details
  let (statusErrs, nodePool) := reconcileNodePoolStatus cfg c env nodePool resultNodes pass.nodes details
  (pass.errs ++ nodesErrs ++ env.reconcileScheduler ++ statusErrs,
    ⟨pass.nodes, details, w.nodePools.replace nodePool⟩)

/-- A NodePool that is being deleted goes with its last finalizer. -/
def deleteFinalizer (nodePool : StoredNodePool) (w : World) : List ApiError × World :=
  let finalizers := nodePool.finalizers.erase cfg.finalizerName
  match c.fault (.patchFinalizers nodePool.name) with
  | some e => (if e.isNotFound then [] else [e], w)
  | none =>
    if finalizers.isEmpty then ([], { w with nodePools := w.nodePools.remove nodePool.name })
    else ([], { w with nodePools := w.nodePools.replace (nodePool.withFinalizers finalizers) })

def finalizeNodePool (nodePool : StoredNodePool) (w : World) : List ApiError × World :=
  if cfg.finalizerName ∉ nodePool.finalizers then ([], w)
  else if c.uninstalling then
    let nodes := (cleanupDeletedNodePool cfg (w.cluster c) nodePool.toNodePool w.nodes).nodes
    ([], { (deleteFinalizer cfg c nodePool w).2 with nodes := nodes })
  else
    let pass := reassignNodeForDeletingNodePool cfg (w.cluster c) nodePool.toNodePool w.nodes
    let w := { w with nodes := pass.nodes }
    if !pass.errs.isEmpty then
      -- The nodes of the status stay, since they are set on the copy that is compared with.
      let (errs, written) := updateNodePoolStatusIfNeeded env
        { nodePool with nodes := (getNodesSituation w.details pass.resultNodes).nodesInNodePool }
        ⟨.deleting, errorDeletingMessage, nodePool.nodes, nodePool.conditions⟩
      (pass.errs ++ errs, { w with nodePools := w.nodePools.replace { written with nodes := nodePool.nodes } })
    else
      match getNodePoolDeletionStatus env nodePool pass.resultNodes w.details with
      | .error e => ([e], w)
      | .ok status =>
        let (errs, nodePool) := updateNodePoolStatusIfNeeded env nodePool status
        let w := { w with nodePools := w.nodePools.replace nodePool }
        if !errs.isEmpty then (errs, w)
        else if status.phase = .deleting then
          ([.failed ("NodePool <" ++ nodePool.name ++ "> is in 'Deleting' phase")], w)
        else deleteFinalizer cfg c nodePool w

def addControllerAsFinalizerIfNeeded (nodePool : StoredNodePool) (w : World) :
    Except ApiError (StoredNodePool × World) :=
  if cfg.finalizerName ∈ nodePool.finalizers then .ok (nodePool, w)
  else
    match c.fault (.patchFinalizers nodePool.name) with
    | some e => .error e
    | none =>
      let nodePool := nodePool.withFinalizers (nodePool.finalizers ++ [cfg.finalizerName])
      .ok (nodePool, { w with nodePools := w.nodePools.replace nodePool })

/-- A NodePool that is not there is no error. -/
def reconcileRequest (name : String) (w : World) : List ApiError × World :=
  match env.fault .getNodePool, w.nodePools.get name with
  | some e, _ => ([e], w)
  | none, none => ([], w)
  | none, some nodePool =>
    if nodePool.deleted then finalizeNodePool cfg c env nodePool w
    else
      match addControllerAsFinalizerIfNeeded cfg c nodePool w with
      | .error e => ([e], w)
      | .ok (nodePool, w) => reconcileNodePool cfg c env nodePool w

end

/-! ## Plain objects -/

/-- A NodePool that has not been reconciled yet. -/
def plainPool (name labelKey labelValue : String) (h : name ≠ "") : StoredNodePool where
  name := name
  labelKey := labelKey
  labelValue := labelValue
  deleted := false
  phase := .unset
  finalizers := []
  name_ne := h
  annotations := ∅
  numaEnabled := none
  preferredNetworkTopologyName := ""
  message := ""
  nodes := []
  conditions := []

/-- Nothing fails and the scheduler is ready. -/
def allReady : Surroundings where
  reconcileScheduler := []
  schedulerStatus := .ok ⟨true, []⟩
  nrtEnabled := false
  nodeResourceTopology := fun _ => none
  topologyLevels := fun _ => none
  projects := []
  fault := fun _ => none

end Krm.Nodes
