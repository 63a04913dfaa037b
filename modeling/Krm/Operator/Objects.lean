import Krm.Objects

/-! # The operator's objects, operands and configuration -/

open Krm.Lib

namespace Krm.Operator

/-- The kinds that an operand may own. -/
inductive Kind where
  | deployment
  | serviceAccount
  | service
  | configMap
  | serviceMonitor
  | verticalPodAutoscaler
deriving DecidableEq, Repr

namespace Kind

def groupVersionKind : Kind → String
  | .deployment => "apps/v1, Kind=Deployment"
  | .serviceAccount => "/v1, Kind=ServiceAccount"
  | .service => "/v1, Kind=Service"
  | .configMap => "/v1, Kind=ConfigMap"
  | .serviceMonitor => "monitoring.coreos.com/v1, Kind=ServiceMonitor"
  | .verticalPodAutoscaler => "autoscaling.k8s.io/v1, Kind=VerticalPodAutoscaler"

def registered : List Kind :=
  [.deployment, .serviceAccount, .service, .configMap, .serviceMonitor, .verticalPodAutoscaler]

/-- Kinds whose CRDs come from components that may not be installed. -/
def isCustomResource : Kind → Bool
  | .serviceMonitor => true
  | .verticalPodAutoscaler => true
  | _ => false

end Kind

structure Key where
  kind : Kind
  namespaceName : String
  name : String
deriving DecidableEq, Repr

/-- Metadata that the API server assigns. -/
structure ServerFields where
  uid : String
  creationTimestamp : Nat
  generation : Nat
  managedFields : String
deriving DecidableEq, Repr

/-- Absent maps are told from empty ones; `γ` is the spec but the replicas. -/
structure Contents (γ : Type) where
  labels : Option Labels
  annotations : Option Labels
  replicas : Option Int
  spec : γ
deriving DecidableEq

/-- The updated replicas, and whether Available is true. -/
structure WorkloadStatus where
  updatedReplicas : Int
  available : Bool
deriving DecidableEq, Repr

structure Object (γ : Type) where
  key : Key
  ownerReferences : List OwnerReference
  resourceVersion : Option Nat
  serverFields : ServerFields
  contents : Contents γ
  status : WorkloadStatus
deriving DecidableEq

abbrev ObjectStore (γ : Type) := Store fun object : Object γ => object.key

def Object.fresh {γ : Type} [Inhabited γ] (key : Key) : Object γ where
  key := key
  ownerReferences := []
  resourceVersion := none
  serverFields := ⟨"", 0, 0, ""⟩
  contents := ⟨none, none, none, default⟩
  status := ⟨0, false⟩

/-! ## The configuration -/

inductive ConditionType where
  | deployed
  | available
  | dependenciesFulfilled
  | ready
  | reconciling
deriving DecidableEq, Repr

inductive ConditionReason where
  | deployed
  | notDeployed
  | available
  | notAvailable
  | dependenciesFulfilled
  | dependenciesMissing
  | ready
  | notReady
  | reconciling
  | reconciled
deriving DecidableEq, Repr

structure Condition where
  type : ConditionType
  status : Bool
  reason : ConditionReason
  message : String
  observedGeneration : Nat
deriving DecidableEq, Repr

def krmConfigKind : String := "KRMConfig"

/-- `κ` is the spec but the namespace, with the defaults filled in. -/
structure KRMConfig (κ : Type) where
  name : String
  uid : String
  generation : Nat
  namespaceName : String
  spec : κ
  conditions : List Condition
deriving DecidableEq

/-! ## Operands -/

structure CRDRequirement where
  name : String
  version : String
deriving DecidableEq, Repr

def CRDRequirement.text (requirement : CRDRequirement) : String := requirement.name ++ "/" ++ requirement.version

/-- An object's name, if it is wanted, and what its builder makes of the live contents. -/
structure ResourceFunc (κ γ : Type) where
  kind : Kind
  name : κ → Option String
  fill : κ → Contents γ → Contents γ

/-- A service that the operator installs. -/
structure Operand (κ γ : Type) where
  name : String
  enabled : κ → Bool
  resourceFuncs : List (ResourceFunc κ γ)
  /-- The spec of the autoscaler, if it is enabled. -/
  vpa : κ → Option γ
  requirements : List CRDRequirement

/-- An operand with what it last desired. -/
structure Installed (κ γ : Type) where
  operand : Operand κ γ
  lastDesiredState : List (Object γ)

end Krm.Operator
