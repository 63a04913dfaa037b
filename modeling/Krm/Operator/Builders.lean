import Krm.Operator.Operands
import Krm.Operator.Outcome

/-! # The builders of the services' objects

A builder starts from the live object and writes over it what the configuration gives. The maps are told absent from
empty, since the objects are compared as they are. -/

open Krm.Lib

namespace Krm.Operator

/-- `settings` is what a builder writes as a whole: images, args, ports, tolerations; `unmanaged` is never written. -/
structure Body (α : Type) where
  selector : Option Labels
  templateLabels : Option Labels
  nodeSelector : Option Labels
  /-- The Secrets that the pods mount. -/
  volumes : List String
  /-- Of a ConfigMap. -/
  data : Option Labels
  settings : Option α
  unmanaged : Option α
deriving DecidableEq, Inhabited

structure ProjectRoleBinding where
  name : String
  serviceAccountName : String
  clusterRoleName : String
  bindProjectServiceAccount : Option Bool
deriving DecidableEq, Repr

/-- A RoleBinding as it is shipped, without a namespace of its own. -/
structure ShippedRoleBinding where
  name : String
  clusterRoleName : String
  subjectName : String
  subjectNamespace : String
deriving DecidableEq, Repr

/-- What the builders read, certificates and replicas by service. -/
structure BuildSpec (α : Type) where
  openshift : Option Bool
  allowExternalQueues : Option Bool
  nodeSelector : Option Labels
  enableNodePoolValidation : Option Bool
  enableProjectValidation : Option Bool
  enableDepartmentValidation : Option Bool
  certSecretName : String → String
  replicas : String → Option Int
  limitRange : Option Bool
  extraProjectRoleBindings : List ProjectRoleBinding
  /-- The list of the blockers, in YAML. -/
  deleteBlockers : String
  settings : Kind → String → α

section

variable {α : Type}

/-- The map with one more entry, made if it is absent. -/
def withEntry (entries : Option Labels) (key value : String) : Option Labels :=
  some ((entries.getD ∅).insert key value)

/-- Whether a service serves webhooks, and so mounts a certificate. -/
def BuildSpec.servesWebhooks (spec : BuildSpec α) (name : String) : Bool :=
  if name = "nodepool-controller" then spec.enableNodePoolValidation.getD true
  else if name = "project-controller" then
    webhooksEnabled spec.enableProjectValidation spec.enableDepartmentValidation spec.allowExternalQueues
  else true

/-- Without webhooks the volumes stay as they are. -/
def deploymentForKRMConfig (spec : BuildSpec α) (name : String) (contents : Contents (Body α)) : Contents (Body α) :=
  { contents with
    labels := withEntry contents.labels "app.kubernetes.io/managed-by" "krm-operator"
    replicas := spec.replicas name
    spec := { contents.spec with
      selector := withEntry none "app" name
      templateLabels := withEntry contents.spec.templateLabels "app" name
      nodeSelector := spec.nodeSelector
      volumes := if spec.servesWebhooks name then [spec.certSecretName name] else contents.spec.volumes
      settings := some (spec.settings .deployment name) } }

def serviceForKRMConfig (spec : BuildSpec α) (name : String) (contents : Contents (Body α)) : Contents (Body α) :=
  { contents with
    annotations := if spec.servesWebhooks name && spec.openshift.getD false then
      withEntry contents.annotations "service.beta.openshift.io/serving-cert-secret-name" (spec.certSecretName name)
      else contents.annotations
    spec := { contents.spec with
      selector := withEntry none "app" name
      settings := some (spec.settings .service name) } }

/-- The service that a monitor scrapes, and the monitor's labels. -/
def monitoredService (name : String) : String × List (String × String) :=
  if name = "nodepool-controller-accounting" then ("nodepool-controller", [("kai.scheduler/accounting", "true")])
  else (name, [])

def serviceMonitorForKRMConfig (spec : BuildSpec α) (name : String) (contents : Contents (Body α)) :
    Contents (Body α) :=
  let extended := (monitoredService name).2.foldl (fun labels label => withEntry labels label.1 label.2) contents.labels
  { contents with
    labels := withEntry extended "app" (monitoredService name).1
    spec := { contents.spec with settings := some (spec.settings .serviceMonitor name) } }

def configMapForKRMConfig (data : Labels) (contents : Contents (Body α)) : Contents (Body α) :=
  { contents with
    labels := withEntry contents.labels "app" "project-controller"
    spec := { contents.spec with data := some data } }

def deleteBlockersConfigMapForKRMConfig (spec : BuildSpec α) : Contents (Body α) → Contents (Body α) :=
  configMapForKRMConfig (Finmap.insert "blockers.yaml" spec.deleteBlockers ∅)

/-! ## The role bindings of the projects -/

structure BuiltinRoleBinding (α : Type) where
  name : String
  enabledBy : BuildSpec α → Option Bool

def builtinRoleBindings : List (BuiltinRoleBinding α) :=
  [⟨"kai-project-controller-limit-range-per-project", BuildSpec.limitRange⟩]

def roleBindingKey (name : String) : String := name ++ ".yaml"

/-- An empty namespace of the subject is the project's. -/
def roleBindingFor (binding : ProjectRoleBinding) (namespaceName : String) : ShippedRoleBinding where
  name := binding.name
  clusterRoleName := if binding.clusterRoleName = "" then binding.name else binding.clusterRoleName
  subjectName := binding.serviceAccountName
  subjectNamespace := if binding.bindProjectServiceAccount.getD false then "" else namespaceName

-- How a RoleBinding is written in YAML, and the namespace of the installation.
variable (marshal : ShippedRoleBinding → String) (namespaceName : String)

/-- The enabled built-in bindings, and extra ones of other names. -/
def BuildSpec.projectRoleBindings (spec : BuildSpec α) : List ProjectRoleBinding :=
  let shipped := builtinRoleBindings.filter fun builtin => (builtin.enabledBy spec).getD false
  shipped.map (fun builtin => ⟨builtin.name, "project-controller", "", none⟩) ++
    spec.extraProjectRoleBindings.filter fun extra => shipped.all fun builtin => builtin.name ≠ extra.name

def roleBindingsData (bindings : List ProjectRoleBinding) : Labels :=
  bindings.foldl (fun data binding =>
    data.insert (roleBindingKey binding.name) (marshal (roleBindingFor binding namespaceName))) ∅

def roleBindingsConfigMapForKRMConfig (spec : BuildSpec α) : Contents (Body α) → Contents (Body α) :=
  configMapForKRMConfig (roleBindingsData marshal namespaceName spec.projectRoleBindings)

/-- Of two ConfigMaps of one name the blockers are built last. -/
def contentsFor (kind : Kind) (name : String) (spec : InstallSpec (BuildSpec α) (Body α)) :
    Contents (Body α) → Contents (Body α) :=
  match kind with
  | .deployment => deploymentForKRMConfig spec.rest name
  | .service => serviceForKRMConfig spec.rest name
  | .serviceMonitor => serviceMonitorForKRMConfig spec.rest name
  | .configMap =>
    if name = "project-delete-blockers" then deleteBlockersConfigMapForKRMConfig spec.rest
    else roleBindingsConfigMapForKRMConfig marshal namespaceName spec.rest
  | .serviceAccount => id
  | .verticalPodAutoscaler => id

end

/-! ## Objects as the API server returns them -/

/-- A map without entries is not stored. -/
def absentIfEmpty (entries : Option Labels) : Option Labels := entries.filter fun entries => entries ≠ ∅

def Contents.returned {γ : Type} (returnedSpec : γ → γ) (contents : Contents γ) : Contents γ :=
  { contents with
    labels := absentIfEmpty contents.labels
    annotations := absentIfEmpty contents.annotations
    spec := returnedSpec contents.spec }

-- How a setting is returned, with the maps in it.
variable {α : Type} (returnedSetting : α → α)

def Body.returned (body : Body α) : Body α :=
  { body with
    selector := absentIfEmpty body.selector
    templateLabels := absentIfEmpty body.templateLabels
    nodeSelector := absentIfEmpty body.nodeSelector
    data := absentIfEmpty body.data
    settings := body.settings.map returnedSetting
    unmanaged := body.unmanaged.map returnedSetting }

theorem insert_ne_empty (entries : Labels) (key value : String) : entries.insert key value ≠ ∅ := by
  intro hempty
  have hlookup := congrArg (Finmap.lookup key) hempty
  simp at hlookup

variable (entries : Option Labels) (marshal : ShippedRoleBinding → String)

@[simp] theorem absentIfEmpty_withEntry (key value : String) :
    absentIfEmpty (withEntry entries key value) = withEntry entries key value := by
  simp [absentIfEmpty, withEntry, Option.filter, insert_ne_empty]

theorem absentIfEmpty_eq_self_iff : absentIfEmpty entries = entries ↔ entries ≠ some ∅ := by
  cases entries with
  | none => simp [absentIfEmpty]
  | some entries =>
    by_cases hempty : entries = ∅
    · simp [absentIfEmpty, Option.filter, hempty]
    · simp [absentIfEmpty, Option.filter, hempty]

/-! ## Objects that are built again -/

@[simp] theorem withEntry_withEntry (key value value' : String) :
    withEntry (withEntry entries key value) key value' = withEntry entries key value' := by
  simp [withEntry]

theorem withEntry_comm {key key' : String} (hne : key ≠ key') (value value' : String) :
    withEntry (withEntry entries key value) key' value' = withEntry (withEntry entries key' value') key value :=
  congrArg some (Finmap.insert_insert_of_ne _ hne)

/-- A builder makes the same of what it has written. -/
def Rebuilt (fill : Contents (Body α) → Contents (Body α)) (name : String) (contents : Contents (Body α)) : Prop :=
  let written := (fill (withAppLabel name contents)).returned (Body.returned returnedSetting)
  fill (withAppLabel name written) = written

section

variable (spec : BuildSpec α) (name : String) (contents : Contents (Body α))

theorem withAppLabel_eq : withAppLabel name contents = { contents with labels := withEntry contents.labels "app" name } :=
  rfl

theorem deployment_rebuilt_iff : Rebuilt returnedSetting (deploymentForKRMConfig spec name) name contents ↔
    spec.nodeSelector ≠ some ∅ ∧ returnedSetting (spec.settings .deployment name) = spec.settings .deployment name := by
  have hlabels (entries : Option Labels) :
      withEntry (withEntry (withEntry entries "app" name) "app.kubernetes.io/managed-by" "krm-operator") "app" name =
        withEntry (withEntry entries "app" name) "app.kubernetes.io/managed-by" "krm-operator" := by
    rw [withEntry_comm _ (by decide), withEntry_withEntry]
  rw [← absentIfEmpty_eq_self_iff]
  simp only [Rebuilt, withAppLabel_eq, deploymentForKRMConfig, Contents.returned, Body.returned, Contents.mk.injEq,
    Body.mk.injEq, absentIfEmpty_withEntry, withEntry_withEntry, hlabels, Option.map_some, Option.some.injEq, true_and,
    and_true]
  rw [eq_comm, eq_comm (a := returnedSetting _)]
  cases spec.servesWebhooks name with
  | false => simp
  | true => simp

theorem service_rebuilt_iff : Rebuilt returnedSetting (serviceForKRMConfig spec name) name contents ↔
    returnedSetting (spec.settings .service name) = spec.settings .service name := by
  simp only [Rebuilt, withAppLabel_eq, serviceForKRMConfig, Contents.returned, Body.returned, Contents.mk.injEq,
    Body.mk.injEq, absentIfEmpty_withEntry, withEntry_withEntry, Option.map_some, Option.some.injEq, true_and, and_true]
  cases spec.servesWebhooks name && spec.openshift.getD false with
  | false => simp [eq_comm]
  | true => simp [eq_comm]

theorem serviceMonitor_rebuilt_iff : Rebuilt returnedSetting (serviceMonitorForKRMConfig spec name) name contents ↔
    returnedSetting (spec.settings .serviceMonitor name) = spec.settings .serviceMonitor name := by
  have hlabels (entries : Option Labels) :
      withEntry (withEntry (withEntry entries "app" name) "kai.scheduler/accounting" "true") "app" name =
        withEntry (withEntry entries "app" name) "kai.scheduler/accounting" "true" := by
    rw [withEntry_comm _ (by decide), withEntry_withEntry]
  have hextended (entries : Option Labels) :
      let extended (labels : Option Labels) :=
        (monitoredService name).2.foldl (fun labels label => withEntry labels label.1 label.2) labels
      withEntry (extended (withEntry (withEntry (extended (withEntry entries "app" name)) "app" (monitoredService name).1)
        "app" name)) "app" (monitoredService name).1 =
        withEntry (extended (withEntry entries "app" name)) "app" (monitoredService name).1 := by
    unfold monitoredService
    split_ifs
    · simp [hlabels]
    · simp
  simp only [Rebuilt, withAppLabel_eq, serviceMonitorForKRMConfig, Contents.returned, Body.returned, Contents.mk.injEq,
    Body.mk.injEq, absentIfEmpty_withEntry, hextended, Option.map_some, Option.some.injEq, true_and, and_true]
  exact eq_comm

theorem configMap_rebuilt_iff (data : Labels) :
    Rebuilt returnedSetting (configMapForKRMConfig data) name contents ↔ data ≠ ∅ := by
  have hdata := absentIfEmpty_eq_self_iff (some data)
  rw [ne_eq, Option.some.injEq] at hdata
  rw [ne_eq, ← hdata]
  simp only [Rebuilt, withAppLabel_eq, configMapForKRMConfig, Contents.returned, Body.returned, Contents.mk.injEq,
    Body.mk.injEq, absentIfEmpty_withEntry, withEntry_withEntry, true_and, and_true]
  exact eq_comm

theorem serviceAccount_rebuilt : Rebuilt returnedSetting id name contents := by
  simp [Rebuilt, withAppLabel_eq, Contents.returned, absentIfEmpty_withEntry]

end

theorem roleBindingsData_eq_empty_iff (namespaceName : String) (bindings : List ProjectRoleBinding) :
    roleBindingsData marshal namespaceName bindings = ∅ ↔ bindings = [] := by
  have hkept (bindings : List ProjectRoleBinding) (data : Labels) (hne : data ≠ ∅) :
      bindings.foldl (fun data binding => data.insert (roleBindingKey binding.name)
        (marshal (roleBindingFor binding namespaceName))) data ≠ ∅ := by
    induction bindings generalizing data with
    | nil => exact hne
    | cons binding bindings ih => exact ih _ (insert_ne_empty _ _ _)
  cases bindings with
  | nil => simp [roleBindingsData]
  | cons binding bindings => simpa [roleBindingsData] using hkept bindings _ (insert_ne_empty _ _ _)

theorem projectRoleBindings_eq_nil_iff (spec : BuildSpec α) :
    spec.projectRoleBindings = [] ↔ spec.limitRange.getD false = false ∧ spec.extraProjectRoleBindings = [] := by
  cases hlimit : spec.limitRange.getD false with
  | false => simp [BuildSpec.projectRoleBindings, builtinRoleBindings, hlimit]
  | true => simp [BuildSpec.projectRoleBindings, builtinRoleBindings, hlimit]

/-- No map that the configuration gives is there and empty. -/
def Stable (spec : BuildSpec α) (kind : Kind) (name : String) : Prop :=
  match kind with
  | .deployment => spec.nodeSelector ≠ some ∅ ∧
      returnedSetting (spec.settings .deployment name) = spec.settings .deployment name
  | .service => returnedSetting (spec.settings .service name) = spec.settings .service name
  | .serviceMonitor => returnedSetting (spec.settings .serviceMonitor name) = spec.settings .serviceMonitor name
  | .configMap =>
      name = "project-delete-blockers" ∨ spec.limitRange.getD false = true ∨ spec.extraProjectRoleBindings ≠ []
  | .serviceAccount => True
  | .verticalPodAutoscaler => True

theorem contentsFor_rebuilt_iff (namespaceName : String) {kind : Kind} (hkind : kind ≠ .verticalPodAutoscaler)
    (name : String) (spec : InstallSpec (BuildSpec α) (Body α)) (contents : Contents (Body α)) :
    Rebuilt returnedSetting (contentsFor marshal namespaceName kind name spec) name contents ↔
      Stable returnedSetting spec.rest kind name := by
  cases kind with
  | deployment => exact deployment_rebuilt_iff returnedSetting spec.rest name contents
  | service => exact service_rebuilt_iff returnedSetting spec.rest name contents
  | serviceMonitor => exact serviceMonitor_rebuilt_iff returnedSetting spec.rest name contents
  | serviceAccount => exact iff_of_true (serviceAccount_rebuilt returnedSetting name contents) trivial
  | verticalPodAutoscaler => exact absurd rfl hkind
  | configMap =>
    simp only [contentsFor, Stable]
    split_ifs with hname
    · refine iff_of_true ((configMap_rebuilt_iff returnedSetting name contents _).2 ?_) (.inl hname)
      exact insert_ne_empty _ _ _
    · rw [roleBindingsConfigMapForKRMConfig, configMap_rebuilt_iff, ne_eq, roleBindingsData_eq_empty_iff,
        projectRoleBindings_eq_nil_iff]
      simp only [hname, false_or]
      rw [not_and_or, Bool.not_eq_false]

end Krm.Operator
