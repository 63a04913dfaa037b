import Krm.Lib.Runs
import Krm.Operator.Objects
import Mathlib.Data.List.Sort

/-! # Deploying the operands' objects -/

open Krm.Lib

namespace Krm.Operator

/-- The API calls of a reconcile. -/
inductive Place where
  | getDesired (key : Key)
  | collect (kind : Kind)
  | create (key : Key)
  | takeOwnership (key : Key)
  | delete (key : Key)
  | update (key : Key)
  | exists (key : Key)
  | available (key : Key)
  | getCRD (operand name : String)
  | patchStatus (type : ConditionType)
deriving DecidableEq, Repr

/-- What a reconcile meets: faults, collectable kinds, finalizers, map orders, served versions, checks. -/
structure Surroundings (γ : Type) where
  fault : Place → Option ApiError
  collectable : Kind → Bool
  held : Key → Bool
  shuffle : List (Object γ) → List (Object γ)
  shuffle_perm : ∀ objects, (shuffle objects).Perm objects
  assigned : Object γ → ServerFields
  servedVersions : String → Option (List String)
  checkers : List (Except ApiError String)

structure DeployError where
  context : String
  cause : ApiError
deriving DecidableEq, Repr

def isNoMatchError (e : ApiError) : Bool := e = .failed "no matches for kind"

section

variable {κ γ : Type} [Inhabited γ] (env : Surroundings γ) (config : KRMConfig κ)

/-! ## The desired state -/

def objectForKRMConfig (objects : ObjectStore γ) (kind : Kind) (name : String) : Except ApiError (Object γ) :=
  let key : Key := ⟨kind, config.namespaceName, name⟩
  let labelled (object : Object γ) : Object γ :=
    { object with contents := { object.contents with labels := some ((object.contents.labels.getD ∅).insert "app" name) } }
  match env.fault (.getDesired key) with
  | some e => if e.isNotFound then .ok (labelled (Object.fresh key)) else .error e
  | none => .ok (labelled ((objects.get key).getD (Object.fresh key)))

/-- A monitor is left out when its CRD is not there. -/
def ResourceFunc.build (resourceFunc : ResourceFunc κ γ) (objects : ObjectStore γ) : Except ApiError (Option (Object γ)) :=
  match resourceFunc.name config.spec with
  | none => .ok none
  | some name =>
    match objectForKRMConfig env config objects resourceFunc.kind name with
    | .error e => if resourceFunc.kind = .serviceMonitor && isNoMatchError e then .ok none else .error e
    | .ok object => .ok (some { object with contents := resourceFunc.fill config.spec object.contents })

/-- The autoscaler is built from scratch, for the first Deployment. -/
def buildVPAFromObjects (vpa : Option γ) (objects : List (Object γ)) : Option (Object γ) :=
  vpa.bind fun spec =>
    (objects.find? fun object => object.key.kind = .deployment).map fun deployment =>
      { (Object.fresh ⟨.verticalPodAutoscaler, config.namespaceName, deployment.key.name⟩ : Object γ) with
        contents := ⟨none, none, none, spec⟩ }

def Operand.build (operand : Operand κ γ) (objects : ObjectStore γ) : Except ApiError (List (Object γ)) := do
  let built ← operand.resourceFuncs.mapM fun resourceFunc => resourceFunc.build env config objects
  let desired := built.reduceOption
  return desired ++ (buildVPAFromObjects config (operand.vpa config.spec) desired).toList

/-- An operand that fails to build its objects keeps what it last desired. -/
def Installed.desiredState (installed : Installed κ γ) (objects : ObjectStore γ) :
    Except ApiError (List (Object γ)) × Installed κ γ :=
  if !installed.operand.enabled config.spec then (.ok [], { installed with lastDesiredState := [] })
  else
    match installed.operand.build env config objects with
    | .error e => (.error e, installed)
    | .ok desired => (.ok desired, { installed with lastDesiredState := desired })

def getDesiredState (objects : ObjectStore γ) :
    List (Installed κ γ) → Except DeployError (List (Object γ)) × List (Installed κ γ)
  | [] => (.ok [], [])
  | installed :: others =>
    match installed.desiredState env config objects with
    | (.error e, installed') =>
      (.error ⟨"failed calculating desired state: " ++ installed.operand.name ++ ": ", e⟩, installed' :: others)
    | (.ok desired, installed') =>
      match getDesiredState objects others with
      | (.error e, others') => (.error e, installed' :: others')
      | (.ok more, others') => (.ok (desired ++ more), installed' :: others')

/-- Of the members with one key the last. -/
def lastByKey {α : Type} (key : α → Key) (l : List α) : List α :=
  l.foldl (fun found a => found.filter (fun other => key other ≠ key a) ++ [a]) []

def byKey (objects : List (Object γ)) : List (Object γ) := lastByKey Object.key objects

/-! ## The current state -/

def controllerOf (owners : List OwnerReference) : Option OwnerReference :=
  owners.find? fun owner => owner.controller = some true

def ownedByConfig (object : Object γ) : Bool :=
  (controllerOf object.ownerReferences).any fun owner =>
    owner.apiVersion = groupVersion && owner.kind ++ "/" ++ owner.name = krmConfigKind ++ "/" ++ config.name

def getCurrentState (objects : ObjectStore γ) : Except DeployError (List (Object γ)) := do
  let collected ← Kind.registered.mapM fun kind =>
    if !env.collectable kind then .ok []
    else
      match env.fault (.collect kind) with
      | some e => .error ⟨"failed collecting current state: ", e⟩
      | none => .ok (objects.list fun object => object.key.kind = kind && ownedByConfig config object)
  return collected.flatten

/-! ## Writes -/

def mergeAnnotations (desired current : Option Labels) : Option Labels :=
  some ((desired.getD ∅) ∪ (current.getD ∅))

def vpaFieldInherit (current desired : Object γ) : Object γ :=
  { desired with
    resourceVersion := current.resourceVersion
    serverFields := current.serverFields
    ownerReferences := current.ownerReferences
    contents := { desired.contents with
      annotations := mergeAnnotations desired.contents.annotations current.contents.annotations }
    status := current.status }

def inheritFieldsFromCurrent (current desired : Object γ) : Object γ :=
  if desired.key.kind = .verticalPodAutoscaler then vpaFieldInherit current desired else desired

structure Actions (γ : Type) where
  toCreate : List (Object γ)
  toDelete : List (Object γ)
  toUpdate : List (Object γ)

def calculateActionsOnObjects [DecidableEq γ] (desired current : List (Object γ)) : Actions γ where
  toCreate := desired.filter fun object => (current.find? fun other => other.key = object.key).isNone
  toDelete := current.filter fun object => (desired.find? fun other => other.key = object.key).isNone
  toUpdate := desired.filterMap fun object =>
    (current.find? fun other => other.key = object.key).bind fun existing =>
      let inherited := inheritFieldsFromCurrent existing object
      if existing = inherited then none else some inherited

/-- The object as it is stored by a write. -/
def stored (existing : Option (Object γ)) (object : Object γ) : Object γ :=
  { object with
    resourceVersion := some (((existing.bind Object.resourceVersion).getD 0) + 1)
    serverFields := env.assigned object
    status := (existing.map Object.status).getD ⟨0, false⟩ }

def createCall (objects : ObjectStore γ) (object : Object γ) : Except ApiError (ObjectStore γ) :=
  match env.fault (.create object.key), objects.get object.key with
  | some e, _ => .error e
  | none, some _ => .error (.alreadyExists object.key.name)
  | none, none => .ok (objects.insert (stored env none object))

/-- Another version is a conflict, and a custom resource has to name one. -/
def updateCall (place : Place) (objects : ObjectStore γ) (object : Object γ) : Except ApiError (ObjectStore γ) :=
  match env.fault place, objects.get object.key with
  | some e, _ => .error e
  | none, none => .error (.notFound object.key.name)
  | none, some existing =>
    match object.resourceVersion with
    | none =>
      if object.key.kind.isCustomResource then
        .error (.failed "metadata.resourceVersion: Invalid value: 0x0: must be specified for an update")
      else .ok (objects.replace (stored env (some existing) object))
    | some version =>
      if some version ≠ existing.resourceVersion then .error (.conflict object.key.name)
      else .ok (objects.replace (stored env (some existing) object))

def deleteCall (objects : ObjectStore γ) (object : Object γ) : Except ApiError (ObjectStore γ) :=
  match env.fault (.delete object.key) with
  | some e => if e.isNotFound then .ok objects else .error e
  | none => .ok (if env.held object.key then objects else objects.remove object.key)

def objectText (object : Object γ) : String :=
  object.key.kind.groupVersionKind ++ " " ++ object.key.namespaceName ++ "/" ++ object.key.name

def reconcilerAsOwnerReference : OwnerReference :=
  ⟨groupVersion, krmConfigKind, config.name, config.uid, some true, none⟩

def owned (object : Object γ) : Object γ := { object with ownerReferences := [reconcilerAsOwnerReference config] }

def failing (context : String) : Except ApiError (ObjectStore γ) → Except DeployError (ObjectStore γ) :=
  Except.mapError (⟨context, ·⟩)

def takeOwnership (objects : ObjectStore γ) (object : Object γ) : Except DeployError (ObjectStore γ) :=
  failing ("failed taking ownership on " ++ objectText object ++ ": ")
    (updateCall env (.takeOwnership object.key) objects object)

/-- A resource version means that the object was there when it was built. -/
def createObjectForKRMConfig (objects : ObjectStore γ) (object : Object γ) : Except DeployError (ObjectStore γ) :=
  let object := owned config object
  if object.resourceVersion.isSome then takeOwnership env objects object
  else
    match createCall env objects object with
    | .ok objects => .ok objects
    | .error e =>
      if e.isAlreadyExists then takeOwnership env objects object
      else .error ⟨"failed creating " ++ objectText object ++ ": ", e⟩

def deleteObject (objects : ObjectStore γ) (object : Object γ) : Except DeployError (ObjectStore γ) :=
  failing ("failed deleting " ++ objectText object ++ ": ") (deleteCall env objects object)

def updateObject (objects : ObjectStore γ) (object : Object γ) : Except DeployError (ObjectStore γ) :=
  let object := owned config object
  failing ("failed updating " ++ objectText object ++ ": ") (updateCall env (.update object.key) objects object)

/-- The writes in order, up to the first that fails. -/
def writeAll (write : ObjectStore γ → Object γ → Except DeployError (ObjectStore γ)) :
    ObjectStore γ → List (Object γ) → Option DeployError × ObjectStore γ
  | objects, [] => (none, objects)
  | objects, object :: others =>
    match write objects object with
    | .error e => (some e, objects)
    | .ok objects' => writeAll write objects' others

/-- ServiceAccounts first, then ConfigMaps. -/
def creationRank (object : Object γ) : Nat :=
  match object.key.kind with
  | .serviceAccount => 0
  | .configMap => 1
  | _ => 2

def sortObjectByCreationOrder (objects : List (Object γ)) : List (Object γ) :=
  objects.insertionSort fun object other => creationRank object ≤ creationRank other

def applyActions (actions : Actions γ) (objects : ObjectStore γ) : Option DeployError × ObjectStore γ :=
  match writeAll (createObjectForKRMConfig env config) objects
      (sortObjectByCreationOrder (env.shuffle actions.toCreate)) with
  | (some e, objects) => (some e, objects)
  | (none, objects) =>
    match writeAll (deleteObject env) objects (env.shuffle actions.toDelete) with
    | (some e, objects) => (some e, objects)
    | (none, objects) => writeAll (updateObject env config) objects (env.shuffle actions.toUpdate)

/-- The objects of the cluster, and what each operand last desired. -/
structure World (κ γ : Type) where
  objects : ObjectStore γ
  operands : List (Installed κ γ)

def deploy [DecidableEq γ] (w : World κ γ) : Option DeployError × World κ γ :=
  match getDesiredState env config w.objects w.operands with
  | (.error e, operands) => (some e, { w with operands := operands })
  | (.ok desired, operands) =>
    match getCurrentState env config w.objects with
    | .error e => (some e, { w with operands := operands })
    | .ok current =>
      let result := applyActions env config (calculateActionsOnObjects (byKey desired) current) w.objects
      (result.1, ⟨result.2, operands⟩)

end

/-! ## What the writes do -/

section

variable {κ γ : Type} {env : Surroundings γ} {config : KRMConfig κ} {objects objects' : ObjectStore γ} {object : Object γ}

theorem Installed.desiredState_operand [Inhabited γ] (env : Surroundings γ) (config : KRMConfig κ) (installed : Installed κ γ)
    (objects : ObjectStore γ) : (installed.desiredState env config objects).2.operand = installed.operand := by
  unfold desiredState
  split_ifs
  · rfl
  · split
    · rfl
    · rfl

theorem createCall_ok (h : createCall env objects object = .ok objects') :
    env.fault (.create object.key) = none ∧ objects.get object.key = none ∧
      objects' = objects.insert (stored env none object) := by
  unfold createCall at h
  split at h
  · cases h
  · cases h
  · rename_i hfault hfree
    exact ⟨hfault, hfree, (Except.ok.inj h).symm⟩

theorem updateCall_ok {place : Place} (h : updateCall env place objects object = .ok objects') :
    ∃ existing, objects.get object.key = some existing ∧
      objects' = objects.replace (stored env (some existing) object) := by
  unfold updateCall at h
  split at h
  · cases h
  · cases h
  · rename_i existing _ hexisting
    refine ⟨existing, hexisting, ?_⟩
    split at h
    · split_ifs at h
      exact (Except.ok.inj h).symm
    · split_ifs at h
      exact (Except.ok.inj h).symm

theorem deleteCall_ok (h : deleteCall env objects object = .ok objects') :
    objects' = objects ∧ (env.held object.key ∨ ∃ e, env.fault (.delete object.key) = some e ∧ e.isNotFound) ∨
      objects' = objects.remove object.key := by
  unfold deleteCall at h
  split at h
  · rename_i e hfault
    split_ifs at h with hmissing
    exact .inl ⟨(Except.ok.inj h).symm, .inr ⟨e, hfault, hmissing⟩⟩
  · split_ifs at h with hheld
    · exact .inl ⟨(Except.ok.inj h).symm, .inl hheld⟩
    · exact .inr (Except.ok.inj h).symm

theorem createObjectForKRMConfig_ok (h : createObjectForKRMConfig env config objects object = .ok objects') :
    createCall env objects (owned config object) = .ok objects' ∨
      updateCall env (.takeOwnership object.key) objects (owned config object) = .ok objects' := by
  unfold createObjectForKRMConfig at h
  dsimp only at h
  split_ifs at h
  · exact .inr (mapError_ok h)
  · split at h
    · rename_i hcreated
      exact .inl (hcreated.trans (congrArg _ (Except.ok.inj h)))
    · split_ifs at h
      exact .inr (mapError_ok h)

end

end Krm.Operator
