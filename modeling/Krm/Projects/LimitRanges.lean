import Krm.Projects.Objects

/-! # The limit range of a Project's namespace -/

open Krm.Lib

namespace Krm.Projects

section

variable (cfg : ControllerConfig) (env : Surroundings)

namespace LimitRangeResourceHandler

def emptyLimits : List LimitRangeItem := [⟨"Container", ∅, ∅, ∅⟩]

def buildEmptyLimitRange (project : ProjectObject) (namespaceName limitRangeName : String) : LimitRange where
  namespaceName := namespaceName
  name := limitRangeName
  labels := ∅
  ownerReferences := [⟨groupVersion, projectKind, project.name, project.uid, some true, some true⟩]
  limits := emptyLimits
  resourceVersion := 0

/-- A value that cannot be read is left out. -/
def assignLimitValueToResourceList (limitsMap : Labels) (field resourceName : String) (resourceList : Quantities) :
    Quantities :=
  match (limitsMap.lookup field).bind env.parseQuantity with
  | none => resourceList
  | some quantity => resourceList.insert resourceName quantity

def defaultLimitItem (limitsMap : Labels) : LimitRangeItem where
  type := "Container"
  max := assignLimitValueToResourceList env limitsMap "memoryMaxLimit" "memory"
    (assignLimitValueToResourceList env limitsMap "cpuMaxLimit" "cpu" ∅)
  defaultLimit := assignLimitValueToResourceList env limitsMap "memoryDefaultLimit" "memory"
    (assignLimitValueToResourceList env limitsMap "cpuDefaultLimit" "cpu" ∅)
  defaultRequest := assignLimitValueToResourceList env limitsMap "memoryDefaultRequest" "memory"
    (assignLimitValueToResourceList env limitsMap "cpuDefaultRequest" "cpu" ∅)

/-- The limits are reset and filled from the ConfigMap of defaults. -/
def populateLimitRange (limitsMap : Labels) (limitRange : LimitRange) : LimitRange :=
  { limitRange with limits := [defaultLimitItem env limitsMap] }

/-- The limit range, and whether it has to be created. -/
def getNamespacedLimitRange (project : ProjectObject) (c : Cluster) : Except ApiError (LimitRange × Bool) := do
  let namespaceName ← kaiProjectToNamespace env cfg .limitRangeNamespace project c.namespaces
  match readCall env .getLimitRange cfg.limitRangeName (c.limitRanges.get (namespaceName, cfg.limitRangeName)) with
  | .error e =>
    if e.isNotFound then .ok (buildEmptyLimitRange project namespaceName cfg.limitRangeName, true) else .error e
  | .ok limitRange => .ok (limitRange, false)

def createOrUpdateLimitRange (shouldCreate : Bool) (limitRange : LimitRange) (limitRanges : LimitRangeStore) :
    Except ApiError LimitRangeStore :=
  let stored := { limitRange with resourceVersion := env.version }
  if shouldCreate then
    match env.fault .createLimitRange, limitRanges.get limitRange.key with
    | some e, _ => .error e
    | none, some _ => .error (.alreadyExists limitRange.name)
    | none, none => .ok (limitRanges.insert stored)
  else writeCall env .updateLimitRange (limitRanges.replace stored)

def handleLimitRange (limitsMap : Labels) (project : ProjectObject) (c : Cluster) : Except ApiError LimitRangeStore := do
  let (limitRange, shouldCreate) ← getNamespacedLimitRange cfg env project c
  if isManuallyOverridden cfg.toConfig limitRange.labels then .ok c.limitRanges
  else createOrUpdateLimitRange env shouldCreate (populateLimitRange env limitsMap limitRange) c.limitRanges

def handleResourceInner (project : ProjectObject) (c : Cluster) : Except ApiError LimitRangeStore :=
  match readCall env .getLimitRangeConfigMap "default-limit-range" env.defaultLimits with
  | .error e => if e.isNotFound then .ok c.limitRanges else .error e
  | .ok limitsMap => handleLimitRange cfg env limitsMap project c

end LimitRangeResourceHandler

namespace LimitRangeDeletionHandler

def isProjectOwner (project : ProjectObject) (ownerReferences : List OwnerReference) : Option Nat :=
  ownerReferences.findIdx? fun owner => owner.kind = projectKind && owner.uid = project.uid && owner.name = project.name

/-- The last reference takes the place of the removed one. -/
def deleteOwnerRef (ownerReferences : List OwnerReference) (indexToRemove : Nat) : List OwnerReference :=
  match ownerReferences.getLast? with
  | none => []
  | some last => (ownerReferences.set indexToRemove last).dropLast

def removeOwnerRef (project : ProjectObject) (limitRange : LimitRange) (limitRanges : LimitRangeStore) :
    Except ApiError LimitRangeStore :=
  match isProjectOwner project limitRange.ownerReferences with
  | none => .ok limitRanges
  | some indexOfOwner =>
    writeCall env .removeOwner (limitRanges.replace
      { limitRange with
        ownerReferences := deleteOwnerRef limitRange.ownerReferences indexOfOwner
        resourceVersion := env.version })

def onDeleteInner (project : ProjectObject) (namespaceName : String) (limitRanges : LimitRangeStore) :
    Except ApiError LimitRangeStore :=
  match readCall env .getDeletedLimitRange cfg.limitRangeName (limitRanges.get (namespaceName, cfg.limitRangeName)) with
  | .error e => if e.isNotFound then .ok limitRanges else .error e
  | .ok limitRange => removeOwnerRef env project limitRange limitRanges

/-- A namespace that cannot be found is forgiven. -/
def onDelete (project : ProjectObject) (c : Cluster) : Except ApiError LimitRangeStore :=
  match kaiProjectToNamespace env cfg .deletedNamespace project c.namespaces with
  | .error _ => .ok c.limitRanges
  | .ok namespaceName => onDeleteInner cfg env project namespaceName c.limitRanges

end LimitRangeDeletionHandler

end

end Krm.Projects
