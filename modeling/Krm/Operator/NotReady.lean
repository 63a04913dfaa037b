import Krm.Operator.Operands
import Krm.Operator.Status
import Mathlib.Data.List.ReduceOption

/-! # What a failed deployment reports

The status is computed from what each operand last desired and from the objects that are there. It does not look at the
outcome of the deployment. -/

open Krm.Lib

namespace Krm.Operator

section

variable {κ γ : Type} {env : Surroundings γ}

/-! ## Conditions that are patched -/

/-- The reads and the patches of the status succeed. -/
structure StatusCallsWork (env : Surroundings γ) : Prop where
  exists_ok : ∀ key, env.fault (.exists key) = none
  available_ok : ∀ key, env.fault (.available key) = none
  getCRD_ok : ∀ operand name, env.fault (.getCRD operand name) = none
  patch_ok : ∀ type, env.fault (.patchStatus type) = none
  checkers_ok : ∀ answer ∈ env.checkers, ∃ message, answer = .ok message

def firstOf (type : ConditionType) (conditions : List Condition) : Option Condition :=
  conditions.find? fun existing => existing.type = type

theorem firstOf_setCondition (conditions : List Condition) (condition : Condition) (type : ConditionType) :
    firstOf type (setCondition conditions condition) =
      if condition.type = type then some condition else firstOf type conditions := by
  split_ifs with htype
  · subst htype
    refine find_upsert_self (by simp) ?_
    intro existing hexisting
    have htype := List.find?_some hexisting
    exact htype
  · refine find_upsert_of_not _ (by simpa using htype) ?_
    intro existing hexisting
    simp only [decide_eq_true_eq] at hexisting ⊢
    rwa [hexisting]

theorem reconcileCondition_ok (hcalls : StatusCallsWork env) (config : KRMConfig κ) (condition : Condition) :
    ∃ config', reconcileCondition env config condition = .ok config' ∧ config'.generation = config.generation ∧
      ∀ type, firstOf type config'.conditions =
        if condition.type = type then some condition else firstOf type config.conditions := by
  unfold reconcileCondition
  split_ifs with hsame
  · refine ⟨config, rfl, rfl, fun type => ?_⟩
    split_ifs with htype
    · rw [← htype]
      exact hsame
    · rfl
  · rw [hcalls.patch_ok]
    exact ⟨_, rfl, rfl, fun type => firstOf_setCondition config.conditions condition type⟩

theorem reconcileConditions_ok (hcalls : StatusCallsWork env) (config : KRMConfig κ) (conditions : List Condition) :
    (reconcileConditions env config conditions).1 = none ∧
      (reconcileConditions env config conditions).2.generation = config.generation ∧
      ∀ type, firstOf type (reconcileConditions env config conditions).2.conditions =
        (firstOf type conditions.reverse).or (firstOf type config.conditions) := by
  induction conditions generalizing config with
  | nil => exact ⟨rfl, rfl, fun type => rfl⟩
  | cons condition conditions ih =>
    obtain ⟨config', hpatch, hgeneration, hfirst⟩ := reconcileCondition_ok hcalls config condition
    obtain ⟨hnone, hgeneration', hfirst'⟩ := ih config'
    simp only [reconcileConditions, hpatch]
    refine ⟨hnone, hgeneration'.trans hgeneration, fun type => ?_⟩
    rw [hfirst', hfirst, List.reverse_cons]
    simp only [firstOf, List.find?_append, List.find?_cons, List.find?_nil]
    by_cases htype : condition.type = type
    · simp [htype]
    · simp [htype]

/-! ## What the checks see -/

theorem aggregate_eq_nil_iff (unmetDescription : String) {check : Installed κ γ → Except String Bool}
    {operands : List (Installed κ γ)} :
    aggregate unmetDescription check operands = [] ↔ ∀ installed ∈ operands, check installed = .ok true := by
  unfold aggregate
  rw [List.filterMap_eq_nil_iff]
  refine forall₂_congr fun installed _ => ?_
  cases check installed with
  | error message => simp
  | ok met => cases met <;> simp

variable {key : Key} {place : Place} {object : Object γ} (config : KRMConfig κ)

theorem getCall_ok (hplace : env.fault place = none) (objects : ObjectStore γ) (key : Key) :
    getCall env place objects key =
      match objects.get key with
      | none => .error (.notFound key.name)
      | some object => .ok object := by
  unfold getCall
  rw [hplace]
  cases objects.get key <;> rfl

theorem isDeployed_iff (hcalls : StatusCallsWork env) (objects : ObjectStore γ) (installed : Installed κ γ) :
    isDeployed env objects installed = .ok true ↔
      ∀ object ∈ installed.lastDesiredState, (objects.get object.key).isSome := by
  have hexist : ∀ desired : List (Object γ), (∃ b, allObjectsExists env objects desired = .ok b) ∧
      (allObjectsExists env objects desired = .ok true ↔ ∀ object ∈ desired, (objects.get object.key).isSome) := by
    intro desired
    induction desired with
    | nil => exact ⟨⟨true, rfl⟩, by simp [allObjectsExists]⟩
    | cons object desired ih =>
      rw [allObjectsExists, getCall_ok (hcalls.exists_ok _)]
      cases hget : objects.get object.key with
      | none => simp [ApiError.isNotFound, hget]
      | some live => simpa [hget] using ih
  obtain ⟨⟨b, hb⟩, hiff⟩ := hexist installed.lastDesiredState
  rw [← hiff, isDeployed, hb]
  simp

/-- Found, and available if it is a Deployment. -/
def Runs (object : Object γ) (found : Option (Object γ)) : Prop :=
  ∃ live, found = some live ∧ (object.key.kind = .deployment → isControllerAvailable live)

theorem isAvailable_iff (hcalls : StatusCallsWork env) (objects : ObjectStore γ) (installed : Installed κ γ) :
    isAvailable env objects installed = .ok true ↔
      ∀ object ∈ installed.lastDesiredState, Runs object (objects.get object.key) := by
  have hmessage : ∀ object : Object γ, availabilityMessage env objects object = none ↔
      Runs object (objects.get object.key) := by
    intro object
    unfold availabilityMessage Runs
    rw [getCall_ok (hcalls.available_ok _)]
    cases hget : objects.get object.key with
    | none => simp
    | some live => simp
  unfold isAvailable allControllersAvailable
  simp only [List.isEmpty_iff]
  rw [← forall₂_congr fun object _ => hmessage object, ← List.filterMap_eq_nil_iff]
  split_ifs with hnil
  · simp [hnil]
  · simp [hnil]

/-! ## Dependencies -/

/-- The CRDs that an operand requires are served, if it is enabled. -/
def Supplied (env : Surroundings γ) (config : KRMConfig κ) (installed : Installed κ γ) : Prop :=
  installed.operand.enabled config.spec → ∀ requirement ∈ installed.operand.requirements, serves env requirement

theorem missingText_eq_empty_iff (missing : List String) : missingText missing = "" ↔ missing = [] := by
  rcases missing with _ | ⟨text, _ | ⟨next, others⟩⟩
  · simp [missingText]
  · simp [missingText]
  · simp [missingText]

theorem missingCRDs_ok (hcalls : StatusCallsWork env) (operand : String) (requirements : List CRDRequirement) :
    ∃ message, missingCRDs env operand requirements = .ok message ∧
      (message = "" ↔ ∀ requirement ∈ requirements, serves env requirement) := by
  have hmissing : missingCRD env operand = fun requirement =>
      pure (if serves env requirement then none else some requirement.text) := by
    funext requirement
    simp only [missingCRD, hcalls.getCRD_ok]
    rfl
  unfold missingCRDs
  rw [hmissing, List.mapM_pure]
  refine ⟨_, rfl, ?_⟩
  rw [missingText_eq_empty_iff]
  simp [List.reduceOption, List.filterMap_map, List.filterMap_eq_nil_iff]

theorem hasMissingDependencies_ok (hcalls : StatusCallsWork env) (config : KRMConfig κ) (installed : Installed κ γ) :
    ∃ message, hasMissingDependencies env config installed = .ok message ∧
      (message = "" ↔ Supplied env config installed) := by
  unfold hasMissingDependencies
  split_ifs with henabled
  · exact ⟨"", rfl, by simp_all [Supplied]⟩
  · obtain ⟨message, hmessage, hiff⟩ := missingCRDs_ok hcalls installed.operand.name installed.operand.requirements
    exact ⟨message, hmessage, by simp_all [Supplied]⟩

theorem intercalate_eq_empty_iff {separator : String} {texts : List String} (h : ∀ text ∈ texts, text ≠ "") :
    separator.intercalate texts = "" ↔ texts = [] := by
  rcases texts with _ | ⟨text, _ | ⟨next, others⟩⟩
  · simp
  · simpa using h text
  · rw [String.intercalate_cons_cons]
    simp [h text]

theorem checkErrors_eq_nil {ε α : Type} {describe : α → ε → String} {check : α → Except ε String} {l : List α}
    (h : ∀ a ∈ l, ∃ message, check a = .ok message) : (l.filterMap fun a => checkError (describe a) (check a)) = [] := by
  rw [List.filterMap_eq_nil_iff]
  intro a ha
  obtain ⟨message, hmessage⟩ := h a ha
  rw [hmessage]
  rfl

theorem checkMessages_eq_empty_iff {ε α : Type} {check : α → Except ε String} {l : List α}
    (describe : α → String → String) (hdescribe : ∀ a message, message ≠ "" → describe a message ≠ "")
    (h : ∀ a ∈ l, ∃ message, check a = .ok message) :
    "; ".intercalate (l.filterMap fun a => checkMessage (describe a) (check a)) = "" ↔ ∀ a ∈ l, check a = .ok "" := by
  rw [intercalate_eq_empty_iff]
  · rw [List.filterMap_eq_nil_iff]
    refine forall₂_congr fun a ha => ?_
    obtain ⟨message, hmessage⟩ := h a ha
    simp [hmessage, checkMessage]
  · intro text htext
    obtain ⟨a, ha, hsome⟩ := List.mem_filterMap.1 htext
    obtain ⟨message, hmessage⟩ := h a ha
    simp only [hmessage, checkMessage, Option.ite_none_left_eq_some, Option.some.injEq] at hsome
    obtain ⟨hne, rfl⟩ := hsome
    exact hdescribe a message hne

theorem unmetDependencies_iff (hcalls : StatusCallsWork env) (config : KRMConfig κ) (operands : List (Installed κ γ)) :
    unmetDependencies env config operands = "" ↔
      (∀ installed ∈ operands, Supplied env config installed) ∧ ∀ answer ∈ env.checkers, answer = .ok "" := by
  have hanswers : ∀ installed ∈ operands, ∃ message, hasMissingDependencies env config installed = .ok message := by
    intro installed _
    obtain ⟨message, hmessage, -⟩ := hasMissingDependencies_ok hcalls config installed
    exact ⟨message, hmessage⟩
  have hsupplied : ∀ installed, Supplied env config installed ↔ hasMissingDependencies env config installed = .ok "" := by
    intro installed
    obtain ⟨message, hmessage, hiff⟩ := hasMissingDependencies_ok hcalls config installed
    rw [← hiff, hmessage, Except.ok.injEq]
  have hoperands := checkMessages_eq_empty_iff
    (fun installed message => installed.operand.name ++ " is missing " ++ message) (by simp) hanswers
  have hcheckers : "; ".intercalate (env.checkers.filterMap (checkMessage id)) = "" ↔ _ :=
    checkMessages_eq_empty_iff (fun _ => id) (by simp) hcalls.checkers_ok
  unfold unmetDependencies
  simp only [checkErrors_eq_nil hanswers, checkErrors_eq_nil hcalls.checkers_ok]
  rw [intercalate_eq_empty_iff (by simp), List.filter_eq_nil_iff, ← hcheckers]
  simp only [hsupplied, ← hoperands]
  simp

/-! ## What is reported -/

/-- Ready is true of the generation. -/
def ReadyFor (generation : Nat) (conditions : List Condition) : Prop :=
  ∃ condition, firstOf .ready conditions = some condition ∧ condition.status = true ∧
    condition.observedGeneration = generation

/-- All that was last desired is there and available, and no dependency is missing. -/
structure LooksReady (env : Surroundings γ) (config : KRMConfig κ) (w : World κ γ) : Prop where
  running : ∀ installed ∈ w.operands, ∀ object ∈ installed.lastDesiredState, Runs object (w.objects.get object.key)
  supplied : ∀ installed ∈ w.operands, Supplied env config installed
  checked : ∀ answer ∈ env.checkers, answer = .ok ""

theorem getDeployedCondition_status (hcalls : StatusCallsWork env) (generation : Nat) (w : World κ γ) :
    (getDeployedCondition env generation w).status = true ↔
      ∀ installed ∈ w.operands, ∀ object ∈ installed.lastDesiredState, (w.objects.get object.key).isSome := by
  rw [← forall₂_congr fun installed _ => isDeployed_iff hcalls w.objects installed,
    ← aggregate_eq_nil_iff "not deployed"]
  unfold getDeployedCondition
  cases aggregate "not deployed" (isDeployed env w.objects) w.operands with
  | nil => simp [condition]
  | cons => simp [condition]

theorem getAvailableCondition_status (hcalls : StatusCallsWork env) (generation : Nat) (w : World κ γ) :
    (getAvailableCondition env generation w).status = true ↔
      ∀ installed ∈ w.operands, ∀ object ∈ installed.lastDesiredState, Runs object (w.objects.get object.key) := by
  rw [← forall₂_congr fun installed _ => isAvailable_iff hcalls w.objects installed,
    ← aggregate_eq_nil_iff "not available"]
  unfold getAvailableCondition
  cases aggregate "not available" (isAvailable env w.objects) w.operands with
  | nil => simp [condition]
  | cons => simp [condition]

theorem getDependenciesFulfilledCondition_status (hcalls : StatusCallsWork env) (config : KRMConfig κ) (w : World κ γ) :
    (getDependenciesFulfilledCondition env config w).status = true ↔
      (∀ installed ∈ w.operands, Supplied env config installed) ∧ ∀ answer ∈ env.checkers, answer = .ok "" := by
  rw [← unmetDependencies_iff hcalls]
  simp only [getDependenciesFulfilledCondition]
  split_ifs with hunmet
  · simpa [condition] using hunmet
  · simpa [condition] using hunmet

theorem readyCondition_spec (generation : Nat) (conditions : List Condition) :
    (readyCondition generation conditions).type = .ready ∧
      (readyCondition generation conditions).observedGeneration = generation ∧
      ((readyCondition generation conditions).status = true ↔ ∀ condition ∈ conditions, condition.status = true) := by
  unfold readyCondition
  cases hfind : conditions.find? fun condition => !condition.status with
  | none => exact ⟨rfl, rfl, by simpa [condition] using hfind⟩
  | some unmet =>
    refine ⟨rfl, rfl, ?_⟩
    have hmem := List.mem_of_find?_eq_some hfind
    have hstatus := List.find?_some hfind
    simp only [condition, Bool.false_eq_true, false_iff, not_forall]
    exact ⟨unmet, hmem, by simpa using hstatus⟩

/-- The conditions that Ready is derived from. -/
def parts (env : Surroundings γ) (config : KRMConfig κ) (w : World κ γ) : List Condition :=
  [getDeployedCondition env config.generation w, getAvailableCondition env config.generation w,
    getDependenciesFulfilledCondition env config w]

theorem parts_status_iff (hcalls : StatusCallsWork env) (config : KRMConfig κ) (w : World κ γ) :
    (∀ condition ∈ parts env config w, condition.status = true) ↔ LooksReady env config w := by
  simp only [parts, List.forall_mem_cons, getDeployedCondition_status hcalls, getAvailableCondition_status hcalls,
    getDependenciesFulfilledCondition_status hcalls]
  constructor
  · rintro ⟨-, hrunning, ⟨hsupplied, hchecked⟩, -⟩
    exact ⟨hrunning, hsupplied, hchecked⟩
  · rintro ⟨hrunning, hsupplied, hchecked⟩
    refine ⟨fun installed hinstalled object hobject => ?_, hrunning, ⟨hsupplied, hchecked⟩, by simp⟩
    obtain ⟨live, hlive, -⟩ := hrunning installed hinstalled object hobject
    simp [hlive]

theorem reconcileStatus_ready_iff (hcalls : StatusCallsWork env) (config : KRMConfig κ) (w : World κ γ) :
    ReadyFor config.generation (reconcileStatus env config w).2.conditions ↔ LooksReady env config w := by
  obtain ⟨htype, hgeneration, hstatus⟩ := readyCondition_spec config.generation (parts env config w)
  have hready : firstOf .ready (reconcileStatus env config w).2.conditions =
      some (readyCondition config.generation (parts env config w)) := by
    obtain ⟨-, -, hfirst⟩ := reconcileConditions_ok hcalls config (parts env config w ++
      [readyCondition config.generation (parts env config w), getReconcilingCondition config.generation false])
    refine (hfirst .ready).trans ?_
    simp [firstOf, htype, getReconcilingCondition, condition]
  simp only [ReadyFor, hready, Option.some.injEq, exists_eq_left', hgeneration, and_true, hstatus,
    parts_status_iff hcalls]

variable (env) in
theorem reconcileConditions_frame (config : KRMConfig κ) (conditions : List Condition) :
    ∃ patched, (reconcileConditions env config conditions).2 = { config with conditions := patched } := by
  induction conditions generalizing config with
  | nil => exact ⟨config.conditions, rfl⟩
  | cons condition conditions ih =>
    rw [reconcileConditions, reconcileCondition]
    split_ifs with hsame
    · exact ih config
    · cases env.fault (.patchStatus condition.type) with
      | some e => exact ⟨config.conditions, rfl⟩
      | none => exact ih _

variable [Inhabited γ]

theorem getDesiredState_conditions (patched : List Condition) (objects : ObjectStore γ)
    (operands : List (Installed κ γ)) :
    getDesiredState env { config with conditions := patched } objects operands =
      getDesiredState env config objects operands := by
  induction operands with
  | nil => rfl
  | cons installed others ih =>
    rw [getDesiredState, getDesiredState, ih]
    rfl

variable [DecidableEq γ]

theorem deploy_conditions (patched : List Condition) (w : World κ γ) :
    deploy env { config with conditions := patched } w = deploy env config w := by
  rw [deploy, getDesiredState_conditions, deploy]
  rfl

theorem reconcile_eq (hcalls : StatusCallsWork env) (config : KRMConfig κ) (w : World κ γ) :
    ∃ started : KRMConfig κ, started.generation = config.generation ∧ started.spec = config.spec ∧
      reconcile env config w = ((deploy env config w).1, (reconcileStatus env started (deploy env config w).2).2,
        (deploy env config w).2) := by
  -- When the status can be patched, the deployment runs and the status is computed from what it leaves.
  have hstart : ∃ patched, updateStartReconcileStatus env config w = (none, { config with conditions := patched }) := by
    unfold updateStartReconcileStatus
    split_ifs with hreconciling
    · exact ⟨config.conditions, rfl⟩
    · obtain ⟨patched, hpatched⟩ := reconcileConditions_frame env config
        [getReconcilingCondition config.generation true, getDeployedCondition env config.generation w]
      exact ⟨patched, Prod.ext (reconcileConditions_ok hcalls config _).1 hpatched⟩
  obtain ⟨patched, hpatched⟩ := hstart
  refine ⟨{ config with conditions := patched }, rfl, rfl, ?_⟩
  rw [reconcile, hpatched]
  dsimp only
  rw [deploy_conditions]

theorem reconcile_ready_iff (hcalls : StatusCallsWork env) (config : KRMConfig κ) (w : World κ γ) :
    ReadyFor config.generation (reconcile env config w).2.1.conditions ↔
      LooksReady env config (reconcile env config w).2.2 := by
  obtain ⟨started, hgeneration, hspec, hreconcile⟩ := reconcile_eq hcalls config w
  have hsupplied : ∀ installed, Supplied env started installed ↔ Supplied env config installed := by
    intro installed
    rw [Supplied, Supplied, hspec]
  rw [hreconcile, ← hgeneration, reconcileStatus_ready_iff hcalls]
  constructor
  · rintro ⟨hrunning, hstarted, hchecked⟩
    exact ⟨hrunning, fun installed h => (hsupplied installed).1 (hstarted installed h), hchecked⟩
  · rintro ⟨hrunning, hstarted, hchecked⟩
    exact ⟨hrunning, fun installed h => (hsupplied installed).2 (hstarted installed h), hchecked⟩

/-! A configuration of all three services, an operator that has just started, and no object yet. -/

def allServices : KRMConfig (InstallSpec Unit Unit) where
  name := "kai-config"
  uid := "uid-1"
  generation := 1
  namespaceName := "kai-resource-management"
  spec := ⟨⟨true, none⟩, ⟨true, none⟩, ⟨true, none⟩, none, none, ()⟩
  conditions := []

def freshOperator : World (InstallSpec Unit Unit) Unit where
  objects := .empty
  operands := freshOperands fun _ _ _ contents => contents

/-- All that is required is served, and one call fails. -/
def failingAt (place : Place) : Surroundings Unit where
  fault := fun other => if other = place then some (.failed "connection refused") else none
  collectable := fun kind => kind ≠ .serviceMonitor
  held := fun _ => false
  shuffle := id
  shuffle_perm := fun _ => .refl _
  assigned := fun object => object.serverFields
  servedVersions := fun _ => some ["v1", "v1alpha1", "v2", "v2alpha2"]
  checkers := [.ok ""]

/-- The calls of a deployment, as against those of the status. -/
def Place.deploys : Place → Bool
  | .exists _ | .available _ | .getCRD _ _ | .patchStatus _ => false
  | _ => true

theorem failingAt_statusCallsWork (hplace : place.deploys) : StatusCallsWork (failingAt place) := by
  have hnone : ∀ other : Place, other.deploys = false → (failingAt place).fault other = none := by
    intro other hother
    refine if_neg ?_
    rintro rfl
    simp [hplace] at hother
  constructor
  · exact fun key => hnone _ rfl
  · exact fun key => hnone _ rfl
  · exact fun operand name => hnone _ rfl
  · exact fun type => hnone _ rfl
  · simp [failingAt]

def nodePoolDeployment : Key := ⟨.deployment, "kai-resource-management", "nodepool-controller"⟩

/-! ## Creates that fail

No other write makes an object that is not there. -/

omit [Inhabited γ] [DecidableEq γ]

theorem updateCall_absent {objects objects' : ObjectStore γ} (habsent : objects.get key = none)
    (hupdate : updateCall env place objects object = .ok objects') : objects'.get key = none := by
  obtain ⟨existing, hexisting, rfl⟩ := updateCall_ok hupdate
  have hne : key ≠ object.key := by
    rintro rfl
    simp [hexisting] at habsent
  rw [← (Store.agreeOff_replace objects _ rfl).get_eq (by simpa [stored] using hne)]
  exact habsent

theorem createObjectForKRMConfig_absent {config : KRMConfig κ} {objects objects' : ObjectStore γ}
    (hfault : env.fault (.create key) ≠ none) (habsent : objects.get key = none)
    (hcreate : createObjectForKRMConfig env config objects object = .ok objects') : objects'.get key = none := by
  obtain hcreated | hupdated := createObjectForKRMConfig_ok hcreate
  · obtain ⟨hnone, -, rfl⟩ := createCall_ok hcreated
    have hne : key ≠ object.key := by
      rintro rfl
      exact hfault hnone
    rw [← (Store.agreeOff_insert objects _ rfl).get_eq (by simpa [stored, owned] using hne)]
    exact habsent
  · exact updateCall_absent habsent hupdated

theorem deleteObject_absent {objects objects' : ObjectStore γ} (habsent : objects.get key = none)
    (hdelete : deleteObject env objects object = .ok objects') : objects'.get key = none := by
  obtain ⟨rfl, -⟩ | rfl := deleteCall_ok (mapError_ok hdelete)
  · exact habsent
  · rw [Store.get_eq_none_iff] at habsent ⊢
    intro other hother
    exact habsent other ((Store.mem_remove objects _ other).1 hother).1

theorem writeAll_absent (write : ObjectStore γ → Object γ → Except DeployError (ObjectStore γ))
    (hwrite : ∀ {objects object objects'}, objects.get key = none → write objects object = .ok objects' →
      objects'.get key = none)
    (objects : ObjectStore γ) (written : List (Object γ)) (habsent : objects.get key = none) :
    (writeAll write objects written).2.get key = none := by
  induction written generalizing objects with
  | nil => exact habsent
  | cons object written ih =>
    rw [writeAll]
    cases hone : write objects object with
    | error e => exact habsent
    | ok objects' => exact ih objects' (hwrite habsent hone)

theorem applyActions_absent {config : KRMConfig κ} {actions : Actions γ} {objects : ObjectStore γ}
    (hfault : env.fault (.create key) ≠ none) (habsent : objects.get key = none) :
    (applyActions env config actions objects).2.get key = none := by
  have hcreated := writeAll_absent (createObjectForKRMConfig env config) (createObjectForKRMConfig_absent hfault)
    objects (sortObjectByCreationOrder (env.shuffle actions.toCreate)) habsent
  unfold applyActions
  split
  · rename_i hall
    simpa [hall] using hcreated
  · rename_i created hall
    rw [hall] at hcreated
    have hdeleted := writeAll_absent (deleteObject env) deleteObject_absent created (env.shuffle actions.toDelete) hcreated
    split
    · rename_i hall
      simpa [hall] using hdeleted
    · rename_i deleted hall
      rw [hall] at hdeleted
      exact writeAll_absent (updateObject env config) (fun habsent hupdate => updateCall_absent habsent (mapError_ok hupdate)) deleted
        (env.shuffle actions.toUpdate) hdeleted

/-- A desired object that cannot be created shows as not ready. -/
theorem failed_create_not_ready [Inhabited γ] [DecidableEq γ] (hcalls : StatusCallsWork env) (config : KRMConfig κ)
    (w : World κ γ) {installed : Installed κ γ} {object : Object γ}
    (hinstalled : installed ∈ (reconcile env config w).2.2.operands) (hobject : object ∈ installed.lastDesiredState)
    (hfault : env.fault (.create object.key) ≠ none) (habsent : w.objects.get object.key = none) :
    ¬ ReadyFor config.generation (reconcile env config w).2.1.conditions := by
  rw [reconcile_ready_iff hcalls]
  intro hready
  obtain ⟨live, hlive, -⟩ := hready.running installed hinstalled object hobject
  obtain ⟨started, -, -, hreconcile⟩ := reconcile_eq hcalls config w
  have hdeploy : (deploy env config w).2.objects.get object.key = none := by
    unfold deploy
    split
    · exact habsent
    · split
      · exact habsent
      · exact applyActions_absent hfault habsent
  rw [hreconcile] at hlive
  simp [hdeploy] at hlive

theorem uncreated_serviceAccount_not_ready :
    let place := Place.create ⟨.serviceAccount, "kai-resource-management", "nodepool-controller"⟩
    ¬ ReadyFor 1 (reconcile (failingAt place) allServices freshOperator).2.1.conditions :=
  failed_create_not_ready (failingAt_statusCallsWork rfl) allServices freshOperator (.head _) (.head _) (by decide) rfl

end

end Krm.Operator
