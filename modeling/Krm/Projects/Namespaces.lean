import Krm.Lib.Flags
import Krm.Projects.Objects

/-! # The namespace of a Project -/

open Krm.Lib

namespace Krm.Projects.NamespaceResourceHandler

inductive ProjectConditionReason where
  | namespaceGetFailed
  | namespaceNotFound
  | namespaceLabelMissing
  | namespaceUpdateFailed
  | namespaceCreateFailed
deriving DecidableEq, Repr

structure Failure where
  statusMsg : String
  reason : ProjectConditionReason
  err : ApiError
deriving DecidableEq, Repr

def failing {α : Type} (statusMsg : String) (reason : ProjectConditionReason) : Except ApiError α → Except Failure α :=
  Except.mapError (⟨statusMsg, reason, ·⟩)

def defaultProjectNamespaceName (cfg : ControllerConfig) (project : ProjectObject) : String :=
  namespacePrefix cfg ++ project.name

def getNamespaceObject (cfg : ControllerConfig) (project : ProjectObject) (namespaceName : String) : NamespaceObject where
  name := namespaceName
  labels :=
    let labels := ((∅ : Labels).insert cfg.namespaceProjectLabelKey project.name).insert cfg.namespaceVersionLabelKey "v2"
    if cfg.isOpenshift then labels.insert "openshift.io/cluster-monitoring" "true" else labels
  kind := "Namespace"
  apiVersion := "v1"
  uid := ""
  finalizers := []
  annotations := (∅ : Labels).insert cfg.enforceSchedulerAnnotationKey (formatBool project.enforceKaiScheduler)
  ownerReferences := []
  resourceVersion := 0

/-- An object without labels has none in memory. -/
def namespacesEqual (cfg : ControllerConfig) (left right : NamespaceObject) : Bool :=
  left.kind = right.kind && left.apiVersion = right.apiVersion && left.name = right.name &&
    left.labels ≠ ∅ && right.labels ≠ ∅ &&
    left.labels.value cfg.namespaceProjectLabelKey = right.labels.value cfg.namespaceProjectLabelKey &&
    left.annotations.value cfg.enforceSchedulerAnnotationKey = right.annotations.value cfg.enforceSchedulerAnnotationKey

section

variable (cfg : ControllerConfig) (env : Surroundings)

def updateNamespace (ns : NamespaceObject) (namespaces : NamespaceStore) : Except Failure NamespaceStore :=
  failing "Failed to update namespace for project" .namespaceUpdateFailed
    (writeCall env .updateNamespace (namespaces.replace { ns with resourceVersion := env.version }))

/-- Others' labels and annotations stay; the handler's are set. -/
def carriedOver (existingNamespace newNamespace : NamespaceObject) : NamespaceObject :=
  { newNamespace with
    resourceVersion := existingNamespace.resourceVersion
    uid := existingNamespace.uid
    finalizers := existingNamespace.finalizers
    annotations := existingNamespace.annotations.erase cfg.enforceSchedulerAnnotationKey ∪ newNamespace.annotations
    labels := newNamespace.labels ∪ existingNamespace.labels }

def handleExistingNamespace (existingNamespace newNamespace : NamespaceObject) (namespaces : NamespaceStore) :
    Except Failure NamespaceStore :=
  if isManuallyOverridden cfg.toConfig existingNamespace.labels then .ok namespaces
  else if namespacesEqual cfg newNamespace existingNamespace then .ok namespaces
  else updateNamespace env (carriedOver cfg existingNamespace newNamespace) namespaces

def handleNonExistingNamespace (newNamespace : NamespaceObject) (namespaces : NamespaceStore) :
    Except Failure NamespaceStore :=
  failing "Failed to create namespace for project" .namespaceCreateFailed <|
    match env.fault .createNamespace, namespaces.get newNamespace.name with
    | some e, _ => if e.isAlreadyExists then .ok namespaces else .error e
    | none, some _ => .ok namespaces
    | none, none => .ok (namespaces.insert { newNamespace with resourceVersion := env.version })

def lacksProjectLabel (ns : NamespaceObject) : Bool := (ns.labels.lookup cfg.namespaceProjectLabelKey).isNone

def enforcementStale (project : ProjectObject) (ns : NamespaceObject) : Bool :=
  ns.annotations.lookup cfg.enforceSchedulerAnnotationKey ≠ some (formatBool project.enforceKaiScheduler)

def otherProjectLabelled (project : ProjectObject) (ns : NamespaceObject) : Bool :=
  ns.labels.value cfg.namespaceProjectLabelKey ≠ "" && ns.labels.value cfg.namespaceProjectLabelKey ≠ project.name

def labelled (project : ProjectObject) (existingNamespace : NamespaceObject) : NamespaceObject :=
  { existingNamespace with
    labels := if lacksProjectLabel cfg existingNamespace then
        existingNamespace.labels.insert cfg.namespaceProjectLabelKey project.name
      else existingNamespace.labels
    annotations := existingNamespace.annotations.insert cfg.enforceSchedulerAnnotationKey
      (formatBool project.enforceKaiScheduler) }

def labelExternalNamespaceForProject (project : ProjectObject) (existingNamespace : NamespaceObject)
    (namespaces : NamespaceStore) : Except Failure NamespaceStore :=
  if otherProjectLabelled cfg project existingNamespace then
    let statusMsg := "'" ++ cfg.namespaceProjectLabelKey ++ "' label missing from namespace"
    .error ⟨statusMsg, .namespaceLabelMissing, .failed statusMsg⟩
  else if lacksProjectLabel cfg existingNamespace || enforcementStale cfg project existingNamespace then
    updateNamespace env (labelled cfg project existingNamespace) namespaces
  else .ok namespaces

def handleUserExternalNamespaceForProject (project : ProjectObject) (namespaces : NamespaceStore) :
    Except Failure NamespaceStore :=
  match readCall env .getNamespace project.namespaceName (namespaces.get project.namespaceName) with
  | .error e =>
    if e.isNotFound then .error ⟨"Can't find namespace for project", .namespaceNotFound, e⟩
    else .error ⟨"Failed to get namespace for project", .namespaceGetFailed, e⟩
  | .ok existingNamespace => labelExternalNamespaceForProject cfg env project existingNamespace namespaces

def handleResourceInner (project : ProjectObject) (namespaces : NamespaceStore) : Except Failure NamespaceStore :=
  if !cfg.createNamespaces then
    failing "Can't find namespace for project" .namespaceNotFound
      ((kaiProjectToNamespace env cfg .validateNamespace project namespaces).map fun _ => namespaces)
  else if project.namespaceName ≠ "" then handleUserExternalNamespaceForProject cfg env project namespaces
  else
    let namespaceName := defaultProjectNamespaceName cfg project
    let namespaceObjToCreate := getNamespaceObject cfg project namespaceName
    match readCall env .getNamespace namespaceName (namespaces.get namespaceName) with
    | .error e =>
      if e.isNotFound then handleNonExistingNamespace env namespaceObjToCreate namespaces
      else .error ⟨"Failed to get namespace for project", .namespaceGetFailed, e⟩
    | .ok existingNamespace => handleExistingNamespace cfg env existingNamespace namespaceObjToCreate namespaces

end

end Krm.Projects.NamespaceResourceHandler
