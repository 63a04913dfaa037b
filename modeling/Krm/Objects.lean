import Krm.Lib.Labels
import Krm.Lib.Store
import Mathlib.Data.Rat.Defs

/-! # Queues, Projects and Departments, and the project controller's configuration -/

open Krm.Lib

namespace Krm

/-- Equal label keys would give one label two meanings. -/
structure Config where
  projectLabelKey : String
  projectIdLabelKey : String
  queueDepartmentNameLabelKey : String
  nodePoolLabelKey : String
  resourceManualOverrideLabelKey : String
  defaultNodepoolName : String
  allowExternalQueues : Bool
  keys_nodup : [projectLabelKey, projectIdLabelKey, queueDepartmentNameLabelKey, nodePoolLabelKey,
    resourceManualOverrideLabelKey].Nodup

def Config.default (allowExternalQueues : Bool) : Config where
  projectLabelKey := "project"
  projectIdLabelKey := "kai.resources/project-id"
  queueDepartmentNameLabelKey := "kai.resources/department-name"
  nodePoolLabelKey := "kai.scheduler/node-pool"
  resourceManualOverrideLabelKey := "kai.resources/resource-manual-override"
  defaultNodepoolName := "default"
  allowExternalQueues := allowExternalQueues
  keys_nodup := by decide

structure OwnerReference where
  apiVersion : String
  kind : String
  name : String
  uid : String
  controller : Option Bool
  blockOwnerDeletion : Option Bool
deriving DecidableEq, Repr

def groupVersion : String := "kai.resources/v1alpha1"
def projectKind : String := "Project"
def departmentKind : String := "Department"

/-! ## The scheduler's queues -/

structure QueueResource where
  quota : Rat
  overQuotaWeight : Rat
  limit : Rat
deriving DecidableEq, Repr

structure QueueResources where
  gpu : QueueResource
  cpu : QueueResource
  memory : QueueResource
deriving DecidableEq, Repr

structure QueueSpec where
  displayName : String
  parentQueue : String
  resources : Option QueueResources
  priority : Option Int
deriving DecidableEq, Repr

structure Queue where
  name : String
  labels : Labels
  ownerReferences : List OwnerReference
  spec : QueueSpec
  /-- Counts the writes of the store; a new one is given out by every write. -/
  resourceVersion : Nat
deriving DecidableEq

/-! ## Projects and departments -/

structure QueueResourceConfig where
  deserved : Rat
  overQuotaWeight : Rat
  limit : Rat
deriving DecidableEq, Repr

structure QueueResourcesConfig where
  gpu : QueueResourceConfig
  cpu : QueueResourceConfig
  memory : QueueResourceConfig
deriving DecidableEq, Repr

def QueueResourcesConfig.zero : QueueResourcesConfig := ⟨⟨0, 0, 0⟩, ⟨0, 0, 0⟩, ⟨0, 0, 0⟩⟩

/-- One entry of `spec.queues` of a Project or a Department. -/
structure QueueConfig where
  name : String
  nodepool : String
  resources : Option QueueResourcesConfig
  priority : Option Int
deriving DecidableEq, Repr

structure Project where
  name : String
  uid : String
  parent : String
  queues : List QueueConfig
deriving DecidableEq, Repr

structure Department where
  name : String
  uid : String
  parent : String
  queues : List QueueConfig
deriving DecidableEq, Repr

structure Namespace where
  name : String
  labels : Labels
deriving DecidableEq

/-! ## Errors of the API -/

inductive ApiError where
  | notFound (name : String)
  | alreadyExists (name : String)
  | conflict (name : String)
  /-- `labels.NewRequirement` refused a label value. -/
  | invalidRequirement (key value : String)
  | failed (message : String)
deriving DecidableEq, Repr

def ApiError.isNotFound : ApiError → Bool
  | .notFound _ => true
  | _ => false

def ApiError.isAlreadyExists : ApiError → Bool
  | .alreadyExists _ => true
  | _ => false

abbrev QueueStore := Store Queue.name

abbrev DepartmentStore := Store Department.name

/-! ## Names of node pools -/

theorem default_ne : "default" ≠ "" := by decide

theorem a_ne : "a" ≠ "" := by decide

theorem train_ne : "train" ≠ "" := by decide

theorem infer_ne : "infer" ≠ "" := by decide

end Krm
