import Krm.Lib.Runs
import Krm.Lib.Labels
import Krm.Lib.Store
import Krm.Lib.WorkQueue
import Krm.Objects

/-! # The topology controller

It writes on a KAI Topology which Grove ClusterTopologyBinding maps to it, and at which resource version.
-/

open Krm.Lib

namespace Krm.Topologies

structure TopologyConfig where
  groveTopologyAnnotation : String
  groveTopologyResourceVersionAnnotation : String

/-! ## Objects -/

structure Topology where
  name : String
  annotations : Labels
  named : name ≠ ""

structure SchedulerTopologyStatus where
  schedulerName : String
  topologyReference : String
deriving DecidableEq, Repr

/-- A stored object has a name and a resource version. -/
structure ClusterTopologyBinding where
  name : String
  resourceVersion : String
  schedulerTopologyStatuses : List SchedulerTopologyStatus
  named : name ≠ ""
  versioned : resourceVersion ≠ ""

abbrev TopologyStore := Store Topology.name
abbrev BindingStore := Store ClusterTopologyBinding.name

/-- The annotations of a merge patch, where none is `null`. -/
abbrev Patch := List (String × Option String)

def Patch.apply (patch : Patch) (annotations : Labels) : Labels :=
  patch.foldl (fun acc entry =>
    match entry.2 with
    | some value => acc.insert entry.1 value
    | none => acc.erase entry.1) annotations

/-! ## The mapping -/

def kaiSchedulerName : String := "kai-scheduler"

/-- Empty if the binding has no entry for the KAI scheduler. -/
def groveToKaiTopologyName (binding : ClusterTopologyBinding) : String :=
  match binding.schedulerTopologyStatuses.find? fun status => status.schedulerName = kaiSchedulerName with
  | some status => status.topologyReference
  | none => ""

def mapGroveToKaiReconcileRequest (binding : ClusterTopologyBinding) : List String :=
  if groveToKaiTopologyName binding = "" then [] else [groveToKaiTopologyName binding]

def findGroveTopologyForKai (groveTopologies : List ClusterTopologyBinding) (kaiTopologyName : String) :
    Option ClusterTopologyBinding :=
  groveTopologies.find? fun grove => groveToKaiTopologyName grove = kaiTopologyName

/-! ## Reconcile -/

section

variable (cfg : TopologyConfig)

/-- The patch that is sent, if one is needed. -/
def setAnnotations (kaiTopology : Topology) (groveTopology : ClusterTopologyBinding) : Option Patch :=
  let currentName := kaiTopology.annotations.value cfg.groveTopologyAnnotation
  let currentRV := kaiTopology.annotations.value cfg.groveTopologyResourceVersionAnnotation
  if currentName = groveTopology.name ∧ currentRV = groveTopology.resourceVersion then none
  else some [(cfg.groveTopologyAnnotation, some groveTopology.name),
    (cfg.groveTopologyResourceVersionAnnotation, some groveTopology.resourceVersion)]

def removeAnnotations (kaiTopology : Topology) : Option Patch :=
  if cfg.groveTopologyAnnotation ∉ kaiTopology.annotations ∧
      cfg.groveTopologyResourceVersionAnnotation ∉ kaiTopology.annotations then none
  else some [(cfg.groveTopologyAnnotation, none), (cfg.groveTopologyResourceVersionAnnotation, none)]

/-- What is sent, from what the two reads return. Bindings are in any order. -/
def reconcile (kaiTopologyName : String) (kaiTopology : Except ApiError Topology)
    (groveTopologies : Except ApiError (List ClusterTopologyBinding)) : Except ApiError (Option Patch) :=
  match kaiTopology with
  | .error e => if e.isNotFound then .ok none else .error e
  | .ok kaiTopology =>
    match groveTopologies with
    | .error e => .error e
    | .ok listed =>
      match findGroveTopologyForKai listed kaiTopologyName with
      | some groveTopology => .ok (setAnnotations cfg kaiTopology groveTopology)
      | none => .ok (removeAnnotations cfg kaiTopology)

end

/-- The patch applies to the topology as it is stored by then. -/
def patchAnnotation (patch : Patch) (kaiTopologyName : String) (topologies : TopologyStore) :
    Except ApiError TopologyStore :=
  match topologies.get kaiTopologyName with
  | none => .error (.notFound kaiTopologyName)
  | some kaiTopology =>
    .ok (topologies.replace { kaiTopology with annotations := patch.apply kaiTopology.annotations })

/-! ## The controller -/

inductive Kind where
  | kai
  | grove
deriving DecidableEq, Repr

abbrev Stored : Kind → Type
  | .kai => TopologyStore
  | .grove => BindingStore

def nothing : (kind : Kind) → Stored kind
  | .kai => .empty
  | .grove => .empty

/-- A request reads its topology, and the bindings that map to it. -/
abbrev Seen : Kind → Type
  | .kai => Option Topology
  | .grove => Set ClusterTopologyBinding

def view : (kind : Kind) → Stored kind → String → Seen kind
  | .kai, topologies, request => topologies.get request
  | .grove, bindings, request => {binding | binding ∈ bindings.items ∧ request ∈ mapGroveToKaiReconcileRequest binding}

/-- A binding is mapped as it was and as it is. -/
def wakes : (kind : Kind) → Stored kind → Stored kind → String → Prop
  | .kai, before, after, request => before.get request ≠ after.get request
  | .grove, before, after, request => ∃ name, before.get name ≠ after.get name ∧
      ((∃ old, before.get name = some old ∧ request ∈ mapGroveToKaiReconcileRequest old) ∨
        ∃ new, after.get name = some new ∧ request ∈ mapGroveToKaiReconcileRequest new)

def found (request : String) : Option Topology → Except ApiError Topology := Lib.found (.notFound request)

/-- A run without an error: two reads, then the patch, if any. -/
def writes (cfg : TopologyConfig) (request : String) (seen : ∀ kind, Option (Seen kind))
    (before after : ∀ kind, Stored kind) : Prop :=
  ∃ kaiTopology listed patch, seen .kai = some kaiTopology ∧
    (kaiTopology.isSome → seen .grove =
      some {binding | binding ∈ listed ∧ request ∈ mapGroveToKaiReconcileRequest binding}) ∧
    reconcile cfg request (found request kaiTopology) (.ok listed) = .ok patch ∧
    after .grove = before .grove ∧
    match patch with
    | none => after .kai = before .kai
    | some patch => patchAnnotation patch request (before .kai) = .ok (after .kai)

/-- The annotations name a binding that maps here and its version, or there is neither. -/
def InSync (cfg : TopologyConfig) (bindings : Set ClusterTopologyBinding) (kaiTopology : Topology) : Prop :=
  (∃ binding ∈ bindings,
    kaiTopology.annotations.lookup cfg.groveTopologyAnnotation = some binding.name ∧
    kaiTopology.annotations.lookup cfg.groveTopologyResourceVersionAnnotation = some binding.resourceVersion) ∨
  (bindings = ∅ ∧ cfg.groveTopologyAnnotation ∉ kaiTopology.annotations ∧
    cfg.groveTopologyResourceVersionAnnotation ∉ kaiTopology.annotations)

def topologyController (cfg : TopologyConfig) : Controller Kind Stored String Seen where
  view := view
  wakes := wakes
  writes := writes cfg
  good _ views := ∀ kaiTopology, views .kai = some kaiTopology → InSync cfg (views .grove) kaiTopology

end Krm.Topologies
