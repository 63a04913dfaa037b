import Krm.Lib.Runs
import Krm.Projects.Objects
import Krm.Queues.Handlers

/-! # The role bindings of a project's namespace -/

open Krm.Lib

namespace Krm.Projects.RoleBindingsResourceHandler

def managedByLabel : String := "app.kubernetes.io/managed-by"
def projectControllerName : String := "project-controller"
def rbacGroup : String := "rbac.authorization.k8s.io"
def clusterRoleKind : String := "ClusterRole"
def serviceAccountKind : String := "ServiceAccount"

/-! ## Objects -/

structure RoleRef where
  apiGroup : String
  kind : String
  name : String
deriving DecidableEq, Repr

structure Subject where
  kind : String
  apiGroup : String
  name : String
  namespaceName : String
deriving DecidableEq, Repr

structure RoleBinding where
  name : String
  namespaceName : String
  labels : Labels
  annotations : Labels
  ownerReferences : List OwnerReference
  finalizers : List String
  roleRef : RoleRef
  subjects : List Subject
  /-- Zero on an object that was not read. -/
  resourceVersion : Nat
deriving DecidableEq

def RoleBinding.key (roleBinding : RoleBinding) : String × String := (roleBinding.namespaceName, roleBinding.name)

abbrev RoleBindingStore := Store RoleBinding.key

/-! ## The API server -/

/-- The read's error, the reason to refuse a write, and the version that a write gets. -/
structure Server where
  readFault : Option ApiError
  refuse : Queues.Verb → Option String
  version : Queues.Verb → Nat

section

variable (server : Server)

def clientGet (key : String × String) (s : RoleBindingStore) : Except ApiError RoleBinding :=
  match server.readFault, s.get key with
  | some e, _ => .error e
  | none, none => .error (.notFound key.2)
  | none, some roleBinding => .ok roleBinding

/-- An object with a resource version is not one to create. -/
def clientCreate (roleBinding : RoleBinding) (s : RoleBindingStore) : Except ApiError (RoleBinding × RoleBindingStore) :=
  match server.refuse .create with
  | some message => .error (.failed message)
  | none =>
    if roleBinding.resourceVersion ≠ 0 then
      .error (.failed "resourceVersion should not be set on objects to be created")
    else match s.get roleBinding.key with
      | some _ => .error (.alreadyExists roleBinding.name)
      | none =>
        let stored := { roleBinding with resourceVersion := server.version .create }
        .ok (stored, s.insert stored)

/-- The role reference of a stored object stays as it is. -/
def clientUpdate (roleBinding : RoleBinding) (s : RoleBindingStore) : Except ApiError RoleBindingStore :=
  match server.refuse .update with
  | some message => .error (.failed message)
  | none =>
    match s.get roleBinding.key with
    | none => .error (.notFound roleBinding.name)
    | some stored =>
      if stored.resourceVersion ≠ roleBinding.resourceVersion then .error (.conflict roleBinding.name)
      else if stored.roleRef ≠ roleBinding.roleRef then .error (.failed "cannot change roleRef")
      else .ok (s.replace { roleBinding with resourceVersion := server.version .update })

/-- An object with finalizers is only marked, and goes when they are gone. -/
def clientDelete (roleBinding : RoleBinding) (s : RoleBindingStore) : Except ApiError RoleBindingStore :=
  match server.refuse .delete with
  | some message => .error (.failed message)
  | none =>
    match s.get roleBinding.key with
    | none => .error (.notFound roleBinding.name)
    | some stored =>
      if stored.finalizers = [] then .ok (s.remove roleBinding.key)
      else .ok (s.replace { stored with resourceVersion := server.version .delete })

end

/-! ## The desired object -/

def projectControllerRef (projectName projectUid : String) : OwnerReference :=
  Queues.ownerReference projectKind projectName projectUid

def isManagedByProjectController (roleBinding : RoleBinding) : Bool :=
  roleBinding.labels.value managedByLabel = projectControllerName

/-- A subject without a namespace is taken to be in the project's. -/
def withNamespace (namespaceName : String) (subject : Subject) : Subject :=
  if subject.namespaceName = "" then { subject with namespaceName := namespaceName } else subject

def preparedSubjects (namespaceName : String) (desiredRoleBinding : RoleBinding) : List Subject :=
  desiredRoleBinding.subjects.map (withNamespace namespaceName)

def getDefaultSubjectsForRoleBinding (isOpenshift : Bool) (randomSuffix : String) : List Subject :=
  if !isOpenshift then []
  else [⟨serviceAccountKind, "", "non-existing-name-" ++ randomSuffix, "non-existing-namespace-" ++ randomSuffix⟩]

def buildRoleBinding (isOpenshift : Bool) (randomSuffix roleBindingName namespaceName projectName clusterRoleName : String)
    (subjects : List Subject) (projectUid : String) : RoleBinding where
  name := roleBindingName
  namespaceName := namespaceName
  labels := (∅ : Labels).insert managedByLabel projectControllerName
  annotations := ∅
  ownerReferences := [projectControllerRef projectName projectUid]
  finalizers := []
  roleRef := ⟨rbacGroup, clusterRoleKind, clusterRoleName⟩
  subjects := if subjects = [] then getDefaultSubjectsForRoleBinding isOpenshift randomSuffix else subjects
  resourceVersion := 0

/-- Of the subjects with one name, the last. -/
def subjectNamed (subjects : List Subject) (name : String) : Option Subject :=
  subjects.reverse.find? fun subject => subject.name = name

/-- Subjects are compared by name, group and kind. -/
def shouldUpdateRoleBinding (current desired : RoleBinding) : Bool :=
  !isManagedByProjectController current || current.roleRef ≠ desired.roleRef ||
    current.subjects.length ≠ desired.subjects.length ||
    desired.subjects.any fun desiredSubject =>
      match subjectNamed current.subjects desiredSubject.name with
      | none => true
      | some currentSubject =>
        currentSubject.apiGroup ≠ desiredSubject.apiGroup || currentSubject.kind ≠ desiredSubject.kind

def hasController (ownerReferences : List OwnerReference) : Bool :=
  ownerReferences.any fun ref => ref.controller = some true

/-! ## Reconciling one role binding -/

section

variable (server : Server) (isOpenshift : Bool) (randomSuffix : String)

def getOrCreateRoleBinding (roleBindingName namespaceName projectName clusterRoleName : String)
    (subjects : List Subject) (projectUid : String) (s : RoleBindingStore) :
    Except ApiError RoleBinding × RoleBindingStore :=
  match clientGet server (namespaceName, roleBindingName) s with
  | .ok roleBinding => (.ok roleBinding, s)
  | .error getErr =>
    if getErr.isNotFound then
      match clientCreate server (buildRoleBinding isOpenshift randomSuffix roleBindingName namespaceName projectName
          clusterRoleName subjects projectUid) s with
      | .ok (created, s') => (.ok created, s')
      | .error e => (.error e, s)
    else (.error getErr, s)

/-- The object as it should be, from the one that was read. -/
def updatedRoleBinding (currentRoleBinding desiredRoleBinding : RoleBinding) (subjects : List Subject)
    (project : ProjectObject) : RoleBinding :=
  { currentRoleBinding with
    roleRef := desiredRoleBinding.roleRef
    subjects := subjects
    labels := currentRoleBinding.labels.insert managedByLabel projectControllerName
    ownerReferences :=
      if hasController currentRoleBinding.ownerReferences then currentRoleBinding.ownerReferences
      else currentRoleBinding.ownerReferences ++ [projectControllerRef project.name project.uid] }

/-- As configured, with the project's namespace, label and owner. -/
def desiredRoleBindingToCreate (currentRoleBinding desiredRoleBinding : RoleBinding) (project : ProjectObject) :
    RoleBinding :=
  { desiredRoleBinding with
    namespaceName := currentRoleBinding.namespaceName
    labels := desiredRoleBinding.labels.insert managedByLabel projectControllerName
    ownerReferences := [projectControllerRef project.name project.uid] }

/-- The error that is returned, if any, and the store. -/
def recreateRoleBinding (currentRoleBinding desiredRoleBinding : RoleBinding) (project : ProjectObject)
    (s : RoleBindingStore) : Option ApiError × RoleBindingStore :=
  match clientDelete server currentRoleBinding s with
  | .error e => (some e, s)
  | .ok s' =>
    match clientCreate server (desiredRoleBindingToCreate currentRoleBinding desiredRoleBinding project) s' with
    | .error e => (if e.isAlreadyExists then none else some e, s')
    | .ok (_, s'') => (none, s'')

def manageExisting (currentRoleBinding desiredRoleBinding : RoleBinding) (subjects : List Subject)
    (project : ProjectObject) (s : RoleBindingStore) : Option ApiError × RoleBindingStore :=
  if shouldUpdateRoleBinding currentRoleBinding desiredRoleBinding then
    let updated := updatedRoleBinding currentRoleBinding desiredRoleBinding subjects project
    if currentRoleBinding.roleRef.name ≠ desiredRoleBinding.roleRef.name then
      recreateRoleBinding server updated desiredRoleBinding project s
    else match clientUpdate server updated s with
      | .error e => (some e, s)
      | .ok s' => (none, s')
  else (none, s)

def manageStaticRoleBinding (name namespaceName : String) (project : ProjectObject) (desiredRoleBinding : RoleBinding)
    (s : RoleBindingStore) : Option ApiError × RoleBindingStore :=
  let subjects := preparedSubjects namespaceName desiredRoleBinding
  match getOrCreateRoleBinding server isOpenshift randomSuffix name namespaceName project.name
      desiredRoleBinding.roleRef.name subjects project.uid s with
  | (.error e, s') => (some e, s')
  | (.ok currentRoleBinding, s') => manageExisting server currentRoleBinding desiredRoleBinding subjects project s'

end

/-! ## What is stored after each write -/

section

variable {server : Server} {roleBinding : RoleBinding} {s s' : RoleBindingStore}

theorem clientGet_ok {key : String × String} (h : clientGet server key s = .ok roleBinding) :
    s.get key = some roleBinding := by
  unfold clientGet at h
  split at h
  · cases h
  · cases h
  · cases h
    assumption

theorem clientCreate_ok {created : RoleBinding} (h : clientCreate server roleBinding s = .ok (created, s')) :
    s.get roleBinding.key = none ∧ created = { roleBinding with resourceVersion := server.version .create } ∧
      s'.get roleBinding.key = some created := by
  unfold clientCreate at h
  split at h
  · cases h
  · split_ifs at h
    split at h
    · cases h
    · rename_i hnone
      cases h
      exact ⟨hnone, rfl, Store.get_insert_self s { roleBinding with resourceVersion := server.version .create } rfl hnone⟩

theorem clientCreate_alreadyExists {e : ApiError} (h : clientCreate server roleBinding s = .error e)
    (he : e.isAlreadyExists = true) : ∃ stored, s.get roleBinding.key = some stored := by
  unfold clientCreate at h
  split at h
  · cases h
    cases he
  · split_ifs at h
    · cases h
      cases he
    · split at h
      · rename_i stored hstored
        exact ⟨stored, hstored⟩
      · cases h

theorem clientUpdate_ok (h : clientUpdate server roleBinding s = .ok s') :
    ∃ stored, s.get roleBinding.key = some stored ∧ stored.roleRef = roleBinding.roleRef ∧
      s'.get roleBinding.key = some { roleBinding with resourceVersion := server.version .update } := by
  unfold clientUpdate at h
  split at h
  · cases h
  · split at h
    · cases h
    · rename_i stored hstored
      split_ifs at h with hversion hrole
      cases h
      refine ⟨stored, hstored, not_not.1 hrole, ?_⟩
      exact Store.get_replace_self s { roleBinding with resourceVersion := server.version .update } rfl
        (by simp [hstored])

theorem clientDelete_ok (h : clientDelete server roleBinding s = .ok s') {stored : RoleBinding}
    (hstored : s.get roleBinding.key = some stored) :
    (stored.finalizers = [] ∧ s'.get roleBinding.key = none) ∨
    (stored.finalizers ≠ [] ∧
      s'.get roleBinding.key = some { stored with resourceVersion := server.version .delete }) := by
  unfold clientDelete at h
  rw [hstored] at h
  split at h
  · cases h
  · dsimp only at h
    split_ifs at h with hfinal
    · cases h
      exact .inl ⟨hfinal, Store.get_remove_self s _⟩
    · cases h
      have hkey : stored.key = roleBinding.key := Store.get_key hstored
      refine .inr ⟨hfinal, ?_⟩
      exact Store.get_replace_self s { stored with resourceVersion := server.version .delete } hkey (by simp [hstored])

end

/-! ## The stored object against the configuration -/

def MatchesDesired (namespaceName : String) (desired stored : RoleBinding) : Prop :=
  stored.roleRef = desired.roleRef ∧ stored.subjects.Perm (preparedSubjects namespaceName desired)

/-- An object left alone has the desired subjects; one created anew goes at once. -/
structure Corrected (namespaceName : String) (desired current : RoleBinding) : Prop where
  skipped : shouldUpdateRoleBinding current desired = false →
    current.subjects.Perm (preparedSubjects namespaceName desired)
  recreated : current.roleRef.name ≠ desired.roleRef.name →
    current.finalizers = [] ∧ ∀ subject ∈ desired.subjects, subject.namespaceName = "" → namespaceName = ""

theorem withNamespace_namespaceName {namespaceName : String} {subject : Subject}
    (h : (withNamespace namespaceName subject).namespaceName = "") : namespaceName = "" := by
  unfold withNamespace at h
  split_ifs at h with hempty
  · exact h
  · exact absurd h hempty

theorem perm_preparedSubjects_iff (namespaceName : String) (desired : RoleBinding) :
    desired.subjects.Perm (preparedSubjects namespaceName desired) ↔
      ∀ subject ∈ desired.subjects, subject.namespaceName = "" → namespaceName = "" := by
  constructor
  · intro hperm subject hsubject hempty
    obtain ⟨original, -, horiginal⟩ := List.mem_map.1 (hperm.subset hsubject)
    exact withNamespace_namespaceName (horiginal ▸ hempty)
  · intro h
    have hsame : preparedSubjects namespaceName desired = desired.subjects := by
      refine (List.map_congr_left fun subject hsubject => ?_).trans (List.map_id _)
      unfold withNamespace
      split_ifs with hempty
      · rw [h subject hsubject hempty, ← hempty]
        rfl
      · rfl
    rw [hsame]

theorem shouldUpdate_of_roleRef {current desired : RoleBinding} (h : current.roleRef ≠ desired.roleRef) :
    shouldUpdateRoleBinding current desired = true := by
  simp [shouldUpdateRoleBinding, h]

section

variable {server : Server} {namespaceName : String} {project : ProjectObject} {desired current : RoleBinding}
  {s s' : RoleBindingStore}

section

variable {updated : RoleBinding} (hname : updated.name = desired.name) (hcurrent : s.get updated.key = some current)
  (h : recreateRoleBinding server updated desired project s = (none, s'))
include hname hcurrent h

theorem recreateRoleBinding_ok :
    ∃ stored, s'.get updated.key = some stored ∧
      if current.finalizers = [] then stored.roleRef = desired.roleRef ∧ stored.subjects = desired.subjects
      else stored.roleRef = current.roleRef := by
  have hnew : (desiredRoleBindingToCreate updated desired project).key = updated.key := by
    simp [RoleBinding.key, desiredRoleBindingToCreate, hname]
  unfold recreateRoleBinding at h
  split at h
  · cases h
  · rename_i s₁ hdelete
    have hdeleted := clientDelete_ok hdelete hcurrent
    split at h
    · -- the name is still held: the object had finalizers
      rename_i e hcreate
      obtain ⟨hreturned, rfl⟩ : (if e.isAlreadyExists then none else some e) = none ∧ s₁ = s' := by simpa using h
      have he : e.isAlreadyExists = true := by
        by_contra hother
        simp [hother] at hreturned
      obtain ⟨stored, hstored⟩ := clientCreate_alreadyExists hcreate he
      rw [hnew] at hstored
      rcases hdeleted with ⟨-, hgone⟩ | ⟨hfinal, hkept⟩
      · rw [hgone] at hstored
        cases hstored
      · exact ⟨_, hkept, by rw [if_neg hfinal]⟩
    · rename_i created s₂ hcreate
      cases h
      obtain ⟨hnone, hcreated, hstored⟩ := clientCreate_ok hcreate
      rw [hnew] at hnone hstored
      rcases hdeleted with ⟨hfinal, -⟩ | ⟨-, hkept⟩
      · refine ⟨created, hstored, ?_⟩
        rw [if_pos hfinal, hcreated]
        exact ⟨rfl, rfl⟩
      · rw [hkept] at hnone
        cases hnone

theorem recreate_matches_iff (hrole : current.roleRef.name ≠ desired.roleRef.name) :
    (∃ stored, s'.get updated.key = some stored ∧ MatchesDesired namespaceName desired stored) ↔
      current.finalizers = [] ∧ ∀ subject ∈ desired.subjects, subject.namespaceName = "" → namespaceName = "" := by
  obtain ⟨stored, hstored, hleft⟩ := recreateRoleBinding_ok hname hcurrent h
  simp only [hstored, Option.some.injEq, exists_eq_left', MatchesDesired]
  split_ifs at hleft with hfinal
  · rw [hleft.1, hleft.2, perm_preparedSubjects_iff]
    simp [hfinal]
  · refine iff_of_false (fun hmatches => hrole ?_) fun hok => hfinal hok.1
    rw [← hleft, hmatches.1]

end

theorem manageExisting_matches_iff (hcurrent : s.get (namespaceName, desired.name) = some current)
    (h : manageExisting server current desired (preparedSubjects namespaceName desired) project s = (none, s')) :
    (∃ stored, s'.get (namespaceName, desired.name) = some stored ∧ MatchesDesired namespaceName desired stored) ↔
      Corrected namespaceName desired current := by
  have hcurrentKey : current.key = (namespaceName, desired.name) := Store.get_key hcurrent
  have hkey : (updatedRoleBinding current desired (preparedSubjects namespaceName desired) project).key =
    (namespaceName, desired.name) := hcurrentKey
  unfold manageExisting at h
  dsimp only at h
  split_ifs at h with hupdate hrole
  · rw [← hkey, recreate_matches_iff (congrArg Prod.snd hkey) (hkey ▸ hcurrent) h hrole]
    exact ⟨fun hok => ⟨fun hskip => absurd hskip (by simp [hupdate]), fun _ => hok⟩, fun hok => hok.recreated hrole⟩
  · split at h
    · cases h
    · rename_i s₁ hwritten
      cases h
      obtain ⟨-, -, -, hstored⟩ := clientUpdate_ok hwritten
      rw [hkey] at hstored
      refine iff_of_true ⟨_, hstored, rfl, .refl _⟩ ⟨fun hskip => ?_, fun hne => absurd hne hrole⟩
      simp [hupdate] at hskip
  · cases h
    have hskip : shouldUpdateRoleBinding current desired = false := by simpa using hupdate
    have hroleRef : current.roleRef = desired.roleRef := by
      by_contra hne
      exact hupdate (shouldUpdate_of_roleRef hne)
    constructor
    · rintro ⟨stored, hstored, -, hperm⟩
      rw [hcurrent] at hstored
      cases hstored
      exact ⟨fun _ => hperm, fun hne => absurd (congrArg RoleRef.name hroleRef) hne⟩
    · exact fun hok => ⟨current, hcurrent, hroleRef, hok.skipped hskip⟩

theorem corrected_created {isOpenshift : Bool} {randomSuffix : String} (hsubjects : desired.subjects ≠ []) (version : Nat) :
    Corrected namespaceName desired
      { buildRoleBinding isOpenshift randomSuffix desired.name namespaceName project.name desired.roleRef.name
          (preparedSubjects namespaceName desired) project.uid with resourceVersion := version } where
  skipped _ := by
    have hne : preparedSubjects namespaceName desired ≠ [] := by simpa [preparedSubjects] using hsubjects
    simp [buildRoleBinding, hne]
  recreated hne := absurd rfl hne

/-- The stored binding matches exactly when what is found is corrected. -/
theorem roleBinding_matches_iff (isOpenshift : Bool) (randomSuffix : String) (hsubjects : desired.subjects ≠ [])
    (h : manageStaticRoleBinding server isOpenshift randomSuffix desired.name namespaceName project desired s =
      (none, s')) :
    (∃ stored, s'.get (namespaceName, desired.name) = some stored ∧ MatchesDesired namespaceName desired stored) ↔
      ∀ current, s.get (namespaceName, desired.name) = some current → Corrected namespaceName desired current := by
  unfold manageStaticRoleBinding getOrCreateRoleBinding at h
  dsimp only at h
  cases hget : clientGet server (namespaceName, desired.name) s with
  | ok current =>
    rw [hget] at h
    have hcurrent := clientGet_ok hget
    rw [manageExisting_matches_iff hcurrent h, hcurrent]
    simp
  | error getErr =>
    rw [hget] at h
    dsimp only at h
    split_ifs at h with hnotFound
    · split at h
      · cases h
      · rename_i created s₁ heq
        split at heq
        · rename_i created' s₂ hcreate
          cases heq
          obtain ⟨hnone, rfl, hstored⟩ := clientCreate_ok hcreate
          have hbuilt : (buildRoleBinding isOpenshift randomSuffix desired.name namespaceName project.name
            desired.roleRef.name (preparedSubjects namespaceName desired) project.uid).key =
            (namespaceName, desired.name) := rfl
          rw [hbuilt] at hnone hstored
          refine iff_of_true ((manageExisting_matches_iff hstored h).2 (corrected_created hsubjects _)) ?_
          intro current hcurrent
          cases hnone.symm.trans hcurrent
        · cases heq
    · cases h

end

/-! ## Subjects without a namespace and subjects in another one -/

namespace Runners

def willing : Server := ⟨none, fun _ => none, fun _ => 7⟩

def project : ProjectObject where
  name := "p"
  uid := "u1"
  parent := ""
  queues := []
  labels := ∅
  finalizers := []
  namespaceName := ""
  enforceKaiScheduler := true
  blockingDeletion := false
  statusNamespace := "kai-p"

/-- A cluster role for the service account `runner`. -/
def runnerBinding (bindingNamespace role subjectNamespace : String) (version : Nat) : RoleBinding where
  name := "runners"
  namespaceName := bindingNamespace
  labels := (∅ : Labels).insert managedByLabel projectControllerName
  annotations := ∅
  ownerReferences := [projectControllerRef "p" "u1"]
  finalizers := []
  roleRef := ⟨rbacGroup, clusterRoleKind, role⟩
  subjects := [⟨serviceAccountKind, "", "runner", subjectNamespace⟩]
  resourceVersion := version

def desired : RoleBinding := runnerBinding "" "edit" "" 0

/-- The outcome when `current` is stored. -/
def outcome (current : RoleBinding) : Option ApiError × RoleBindingStore :=
  manageStaticRoleBinding willing false "" desired.name "kai-p" project desired (.single current)

def withoutSubjects : RoleBinding := { runnerBinding "kai-p" "edit" "kai-p" 1 with subjects := [] }

end Runners

open Runners in
theorem roleBindings_not_matching :
    desired.subjects ≠ [] ∧
    (outcome (runnerBinding "kai-p" "view" "kai-p" 1)).1 = none ∧
    (¬ ∃ stored, (outcome (runnerBinding "kai-p" "view" "kai-p" 1)).2.get ("kai-p", "runners") = some stored ∧
      MatchesDesired "kai-p" desired stored) ∧
    (outcome (runnerBinding "kai-p" "edit" "elsewhere" 1)).1 = none ∧
    ¬ ∃ stored, (outcome (runnerBinding "kai-p" "edit" "elsewhere" 1)).2.get ("kai-p", "runners") = some stored ∧
      MatchesDesired "kai-p" desired stored := by
  -- A binding created anew for another role gets a subject without a namespace, and one with its subject in another
  -- namespace is left as it is.
  refine ⟨by decide, by decide +kernel, ?_, by decide +kernel, ?_⟩
  · rintro ⟨stored, hstored, -, hperm⟩
    have hsubjects : stored.subjects = [⟨serviceAccountKind, "", "runner", ""⟩] := by
      have hget : ((outcome (runnerBinding "kai-p" "view" "kai-p" 1)).2.get ("kai-p", "runners")).map
          RoleBinding.subjects = some [⟨serviceAccountKind, "", "runner", ""⟩] := by decide +kernel
      rw [hstored] at hget
      exact Option.some.inj hget
    rw [hsubjects] at hperm
    exact absurd hperm (by decide)
  · rintro ⟨stored, hstored, -, hperm⟩
    have hget : (outcome (runnerBinding "kai-p" "edit" "elsewhere" 1)).2.get ("kai-p", "runners") =
        some (runnerBinding "kai-p" "edit" "elsewhere" 1) := by decide +kernel
    cases hget.symm.trans hstored
    exact absurd hperm (by decide)

open Runners in
theorem roleBinding_without_subjects_matches :
    desired.subjects ≠ [] ∧ ∃ stored, (outcome withoutSubjects).2.get ("kai-p", "runners") = some stored ∧
      MatchesDesired "kai-p" desired stored := by
  -- A binding of the role to nobody is updated.
  have hnil : manageStaticRoleBinding willing false "" desired.name "kai-p" project desired (.single withoutSubjects) =
      (none, (outcome withoutSubjects).2) := Prod.ext (by decide +kernel) rfl
  refine ⟨by decide, (roleBinding_matches_iff false "" (by decide) hnil).2 ?_⟩
  intro current hcurrent
  cases hcurrent
  exact ⟨fun hskip => absurd hskip (by decide), fun hne => absurd rfl hne⟩

end Krm.Projects.RoleBindingsResourceHandler
