import Krm.Queues.Client
import Krm.Status.Project

/-! # What the reconcile of a Project reads and writes: its namespace, its queues and its limit range -/

open Krm.Lib

namespace Krm.Projects

structure ControllerConfig extends Status.StatusConfig where
  namespaceVersionLabelKey : String
  enforceSchedulerAnnotationKey : String
  finalizerDomain : String
  projectNamePrefix : String
  limitRangeName : String
  createNamespaces : Bool
  isOpenshift : Bool
  limitRange : Bool

def ControllerConfig.default (allowExternalQueues : Bool) : ControllerConfig where
  toConfig := .default allowExternalQueues
  namespaceProjectLabelKey := "kai/project"
  namespaceVersionLabelKey := "kai.resources/namespace-version"
  enforceSchedulerAnnotationKey := "kai.resources/enforce-scheduler-name"
  finalizerDomain := "kai.resources"
  projectNamePrefix := "kai"
  limitRangeName := "kai-limit-range"
  createNamespaces := true
  isOpenshift := false
  limitRange := true

def finalizerName (cfg : ControllerConfig) : String := cfg.finalizerDomain ++ ".finalizers.project"

def namespacePrefix (cfg : ControllerConfig) : String := cfg.projectNamePrefix ++ "-"

/-! ## Objects -/

structure ProjectObject extends Project where
  labels : Labels
  finalizers : List String
  /-- The namespace that the user names, or none. -/
  namespaceName : String
  enforceKaiScheduler : Bool
  blockingDeletion : Bool
  statusNamespace : String

structure NamespaceObject extends Namespace where
  kind : String
  apiVersion : String
  uid : String
  finalizers : List String
  annotations : Labels
  ownerReferences : List OwnerReference
  resourceVersion : Nat
deriving DecidableEq

abbrev NamespaceStore := Store fun ns : NamespaceObject => ns.name

abbrev Quantities := Finmap (fun _ : String => Rat)

structure LimitRangeItem where
  type : String
  max : Quantities
  defaultLimit : Quantities
  defaultRequest : Quantities
deriving DecidableEq

structure LimitRange where
  namespaceName : String
  name : String
  labels : Labels
  ownerReferences : List OwnerReference
  limits : List LimitRangeItem
  resourceVersion : Nat
deriving DecidableEq

def LimitRange.key (limitRange : LimitRange) : String × String := (limitRange.namespaceName, limitRange.name)

abbrev LimitRangeStore := Store LimitRange.key

structure Cluster where
  namespaces : NamespaceStore
  queues : QueueStore
  limitRanges : LimitRangeStore

/-- The label that keeps an object of any kind as it is. -/
def isManuallyOverridden (cfg : Config) (labels : Labels) : Bool :=
  (labels.value cfg.resourceManualOverrideLabelKey).toList.map Char.toLower = "true".toList

/-! ## Calls -/

/-- The API calls on namespaces and limit ranges. -/
inductive Place where
  | validateNamespace
  | getNamespace
  | createNamespace
  | updateNamespace
  | getLimitRangeConfigMap
  | limitRangeNamespace
  | getLimitRange
  | createLimitRange
  | updateLimitRange
  | deletedNamespace
  | getDeletedLimitRange
  | removeOwner
deriving DecidableEq, Repr

/-- What a run meets: faults, versions, default limits, how quantities are read, blockers' errors, its queues. -/
structure Surroundings where
  fault : Place → Option ApiError
  version : Nat
  defaultLimits : Option Labels
  parseQuantity : String → Option Rat
  blocked : List ApiError
  queues : Queues.Environment

variable (env : Surroundings)

/-- A read of one object that may be absent. -/
def readCall {α : Type} (place : Place) (name : String) (found : Option α) : Except ApiError α :=
  match env.fault place, found with
  | some e, _ => .error e
  | none, none => .error (.notFound name)
  | none, some a => .ok a

variable {env} in
theorem readCall_ok {α : Type} {place : Place} {name : String} {found : Option α} {a : α}
    (h : readCall env place name found = .ok a) : found = some a := by
  unfold readCall at h
  split at h
  · simp at h
  · simp at h
  · exact congrArg some (Except.ok.inj h)

def writeCall {α : Type} (place : Place) (written : α) : Except ApiError α :=
  match env.fault place with
  | some e => .error e
  | none => .ok written

variable {env} in
theorem writeCall_ok {α : Type} {place : Place} {written a : α} (h : writeCall env place written = .ok a) :
    written = a := by
  unfold writeCall at h
  split at h
  · simp at h
  · exact Except.ok.inj h

/-- The status's namespace, or the one with the project's label. -/
def kaiProjectToNamespace (cfg : ControllerConfig) (place : Place) (project : ProjectObject) (namespaces : NamespaceStore) :
    Except ApiError String :=
  if project.statusNamespace ≠ "" then .ok project.statusNamespace
  else
    match env.fault place, Status.projectToNamespace cfg.toStatusConfig (fun _ => none)
        (namespaces.items.map NamespaceObject.toNamespace) project.name with
    | some e, _ => .error e
    | none, .error message => .error (.failed message)
    | none, .ok name => .ok name

end Krm.Projects
