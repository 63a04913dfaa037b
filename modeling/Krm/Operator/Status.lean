import Krm.Lib.Upsert
import Krm.Operator.Deploy

/-! # The status of a KRMConfig, and its reconcile -/

open Krm.Lib

namespace Krm.Operator

/-- The text of an error of the API, without the resource that it is about. -/
def errorText : ApiError → String
  | .notFound name => name ++ " not found"
  | .alreadyExists name => name ++ " already exists"
  | .conflict name => "Operation cannot be fulfilled on " ++ name ++ ": the object has been modified"
  | .invalidRequirement key value => "invalid value " ++ value ++ " of " ++ key
  | .failed message => message

section

variable {κ γ : Type} (env : Surroundings γ)

/-! ## What is there -/

def getCall (place : Place) (objects : ObjectStore γ) (key : Key) : Except ApiError (Object γ) :=
  match env.fault place, objects.get key with
  | some e, _ => .error e
  | none, none => .error (.notFound key.name)
  | none, some object => .ok object

def allObjectsExists (objects : ObjectStore γ) : List (Object γ) → Except ApiError Bool
  | [] => .ok true
  | object :: others =>
    match getCall env (.exists object.key) objects object.key with
    | .error e => if e.isNotFound then .ok false else .error e
    | .ok _ => allObjectsExists objects others

def isControllerAvailable (deployment : Object γ) : Bool :=
  deployment.contents.replicas = some deployment.status.updatedReplicas && deployment.status.available

def availabilityMessage (objects : ObjectStore γ) (object : Object γ) : Option String :=
  match getCall env (.available object.key) objects object.key with
  | .error e => some (errorText e)
  | .ok live =>
    if object.key.kind = .deployment && !isControllerAvailable live then
      some ("Deployment [" ++ live.key.name ++ "] is not available")
    else none

def allControllersAvailable (objects : ObjectStore γ) (desired : List (Object γ)) : Except String Bool :=
  let errorMessages := desired.filterMap (availabilityMessage env objects)
  if errorMessages.isEmpty then .ok true else .error ("\n".intercalate errorMessages)

def isDeployed (objects : ObjectStore γ) (installed : Installed κ γ) : Except String Bool :=
  match allObjectsExists env objects installed.lastDesiredState with
  | .error e => .error (errorText e)
  | .ok exist => .ok exist

def isAvailable (objects : ObjectStore γ) (installed : Installed κ γ) : Except String Bool :=
  allControllersAvailable env objects installed.lastDesiredState

/-- Why the answer is not yes for all operands. -/
def aggregate (unmetDescription : String) (check : Installed κ γ → Except String Bool) (operands : List (Installed κ γ)) :
    List String :=
  operands.filterMap fun installed =>
    match check installed with
    | .error message => some (installed.operand.name ++ ": " ++ message)
    | .ok false => some (installed.operand.name ++ ": " ++ unmetDescription)
    | .ok true => none

/-! ## Dependencies -/

def serves (requirement : CRDRequirement) : Bool :=
  (env.servedVersions requirement.name).any fun versions => requirement.version ∈ versions

def missingCRD (operand : String) (requirement : CRDRequirement) : Except String (Option String) :=
  match env.fault (.getCRD operand requirement.name) with
  | none => .ok (if serves env requirement then none else some requirement.text)
  | some e =>
    if e.isNotFound || isNoMatchError e then .ok (some requirement.text)
    else .error ("reading CustomResourceDefinition " ++ requirement.name ++ ": " ++ errorText e)

def missingText : List String → String
  | [] => ""
  | [missing] => "CRD " ++ missing
  | missing => "CRDs " ++ ", ".intercalate missing

def missingCRDs (operand : String) (requirements : List CRDRequirement) : Except String String := do
  let found ← requirements.mapM (missingCRD env operand)
  return missingText found.reduceOption

def hasMissingDependencies (config : KRMConfig κ) (installed : Installed κ γ) : Except String String :=
  if !installed.operand.enabled config.spec then .ok "" else missingCRDs env installed.operand.name installed.operand.requirements

def checkError {ε : Type} (describe : ε → String) : Except ε String → Option String
  | .error e => some (describe e)
  | .ok _ => none

def checkMessage {ε : Type} (describe : String → String) : Except ε String → Option String
  | .error _ => none
  | .ok message => if message = "" then none else some (describe message)

/-- The checks' errors, and what is missing: operands first. -/
def unmetDependencies (config : KRMConfig κ) (operands : List (Installed κ γ)) : String :=
  let operandErrors := operands.filterMap fun installed =>
    checkError (fun message => installed.operand.name ++ ": " ++ message) (hasMissingDependencies env config installed)
  let operandMessages := operands.filterMap fun installed =>
    checkMessage (fun message => installed.operand.name ++ " is missing " ++ message)
      (hasMissingDependencies env config installed)
  let checkErrors := env.checkers.filterMap (checkError errorText)
  let checkMessages := env.checkers.filterMap (checkMessage id)
  let messages := ["\n".intercalate (operandErrors ++ checkErrors), "; ".intercalate operandMessages,
    "; ".intercalate checkMessages]
  "; ".intercalate (messages.filter fun message => message ≠ "")

/-! ## Conditions -/

def condition (type : ConditionType) (met : Bool) (reason : ConditionReason) (message : String) (generation : Nat) :
    Condition :=
  ⟨type, met, reason, message, generation⟩

def getDeployedCondition (generation : Nat) (w : World κ γ) : Condition :=
  match aggregate "not deployed" (isDeployed env w.objects) w.operands with
  | [] => condition .deployed true .deployed "Resources deployed" generation
  | errs => condition .deployed false .notDeployed ("\n".intercalate errs) generation

def getAvailableCondition (generation : Nat) (w : World κ γ) : Condition :=
  match aggregate "not available" (isAvailable env w.objects) w.operands with
  | [] => condition .available true .available "System available" generation
  | errs => condition .available false .notAvailable ("\n".intercalate errs) generation

def getDependenciesFulfilledCondition (config : KRMConfig κ) (w : World κ γ) : Condition :=
  let unmet := unmetDependencies env config w.operands
  if unmet ≠ "" then condition .dependenciesFulfilled false .dependenciesMissing unmet config.generation
  else condition .dependenciesFulfilled true .dependenciesFulfilled "Dependencies are fulfilled" config.generation

def readyCondition (generation : Nat) (conditions : List Condition) : Condition :=
  match conditions.find? fun condition => !condition.status with
  | some unmet => condition .ready false .notReady unmet.message generation
  | none => condition .ready true .ready "System is ready" generation

def getReconcilingCondition (generation : Nat) (reconciling : Bool) : Condition :=
  if reconciling then condition .reconciling true .reconciling "Reconciliation in progress" generation
  else condition .reconciling false .reconciled "Reconciliation completed successfully" generation

def setCondition (conditions : List Condition) (condition : Condition) : List Condition :=
  upsert (fun existing => existing.type = condition.type) condition conditions

/-- A condition that is there already is not patched. -/
def reconcileCondition (config : KRMConfig κ) (condition : Condition) : Except ApiError (KRMConfig κ) :=
  if (config.conditions.find? fun existing => existing.type = condition.type) = some condition then .ok config
  else
    match env.fault (.patchStatus condition.type) with
    | some e => .error e
    | none => .ok { config with conditions := setCondition config.conditions condition }

/-- The conditions in order, up to the first that cannot be patched. -/
def reconcileConditions : KRMConfig κ → List Condition → Option ApiError × KRMConfig κ
  | config, [] => (none, config)
  | config, condition :: conditions =>
    match reconcileCondition env config condition with
    | .error e => (some e, config)
    | .ok config => reconcileConditions config conditions

def hasReconcilingConditionForGeneration (config : KRMConfig κ) : Bool :=
  (config.conditions.find? fun existing => existing.type = .reconciling).any fun existing =>
    existing.observedGeneration = config.generation

def updateStartReconcileStatus (config : KRMConfig κ) (w : World κ γ) : Option ApiError × KRMConfig κ :=
  if hasReconcilingConditionForGeneration config then (none, config)
  else
    reconcileConditions env config
      [getReconcilingCondition config.generation true, getDeployedCondition env config.generation w]

def reconcileStatus (config : KRMConfig κ) (w : World κ γ) : Option ApiError × KRMConfig κ :=
  let deployed := getDeployedCondition env config.generation w
  let available := getAvailableCondition env config.generation w
  let dependenciesFulfilled := getDependenciesFulfilledCondition env config w
  reconcileConditions env config
    [deployed, available, dependenciesFulfilled,
      readyCondition config.generation [deployed, available, dependenciesFulfilled],
      getReconcilingCondition config.generation false]

/-! ## The reconcile -/

/-- The status is computed at the end, whatever has failed before. -/
def reconcile [Inhabited γ] [DecidableEq γ] (config : KRMConfig κ) (w : World κ γ) :
    Option DeployError × KRMConfig κ × World κ γ :=
  match updateStartReconcileStatus env config w with
  | (some e, config) => (some ⟨"", e⟩, (reconcileStatus env config w).2, w)
  | (none, config) =>
    let deployed := deploy env config w
    (deployed.1, (reconcileStatus env config deployed.2).2, deployed.2)

end

end Krm.Operator
