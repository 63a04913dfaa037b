import Krm.Projects.ManualOverride

/-! # Namespaces that belong to one project

A reconcile leaves the project label of a namespace that the user names if there is one. Under the name derived from the
project it sets its own. -/

open Krm.Lib

namespace Krm.Projects.Exclusive

open NamespaceResourceHandler

abbrev ProjectStore := Store fun project : ProjectObject => project.name

structure Tenancy where
  projects : ProjectStore
  namespaces : NamespaceStore

/-- Users change projects and namespaces, the controller reconciles. -/
inductive Event where
  | createProject (project : ProjectObject)
  | editProject (project : ProjectObject)
  | deleteProject (name : String)
  | createNamespace (ns : NamespaceObject)
  | editNamespace (ns : NamespaceObject)
  | deleteNamespace (name : String)
  | reconcile (name : String) (env : Surroundings)

section

variable (cfg : ControllerConfig)

/-- A failed reconcile has written nothing. -/
def handled (env : Surroundings) (project : ProjectObject) (namespaces : NamespaceStore) : NamespaceStore :=
  match handleResourceInner cfg env project namespaces with
  | .ok written => written
  | .error _ => namespaces

def step (t : Tenancy) : Event → Tenancy
  | .createProject project => ⟨t.projects.insert project, t.namespaces⟩
  | .editProject project => ⟨t.projects.replace project, t.namespaces⟩
  | .deleteProject name => ⟨t.projects.remove name, t.namespaces⟩
  | .createNamespace ns => ⟨t.projects, t.namespaces.insert ns⟩
  | .editNamespace ns => ⟨t.projects, t.namespaces.replace ns⟩
  | .deleteNamespace name => ⟨t.projects, t.namespaces.remove name⟩
  | .reconcile name env =>
    match t.projects.get name with
    | none => t
    | some project => ⟨t.projects, handled cfg env project t.namespaces⟩

def projectLabel (namespaces : NamespaceStore) (name : String) : Option String :=
  (namespaces.get name).bind fun ns => ns.labels.lookup cfg.namespaceProjectLabelKey

/-- Labels of other existing projects stay. -/
def Kept (t : Tenancy) : Event → Prop
  | .reconcile name env => ∀ owner ∈ t.projects.items, owner.name ≠ name → ∀ namespaceName,
      projectLabel cfg t.namespaces namespaceName = some owner.name →
        projectLabel cfg (step cfg t (.reconcile name env)).namespaces namespaceName = some owner.name
  | _ => True

/-- Under its derived name `project` meets and takes a namespace of `owner`. -/
structure Overwrites (env : Surroundings) (project : ProjectObject) (namespaces : NamespaceStore) (owner : String) :
    Prop where
  derived : project.namespaceName = ""
  labelled : projectLabel cfg namespaces (defaultProjectNamespaceName cfg project) = some owner
  read : env.fault .getNamespace = none
  not_overridden : ∀ ns, namespaces.get (defaultProjectNamespaceName cfg project) = some ns →
    isManuallyOverridden cfg.toConfig ns.labels = false
  written : env.fault .updateNamespace = none
  other : (getNamespaceObject cfg project (defaultProjectNamespaceName cfg project)).labels.lookup
    cfg.namespaceProjectLabelKey ≠ some owner

/-- No reconcile writes over the label of another existing project. -/
def Respectful (t : Tenancy) : Event → Prop
  | .reconcile name env => ∀ project, t.projects.get name = some project → ∀ owner ∈ t.projects.items,
      owner.name ≠ name → ¬ Overwrites cfg env project t.namespaces owner.name
  | _ => True

end

/-! ## What one reconcile writes -/

section

variable {cfg : ControllerConfig} {env : Surroundings} {project : ProjectObject} {namespaces : NamespaceStore}

def stamped (env : Surroundings) (ns : NamespaceObject) : NamespaceObject := { ns with resourceVersion := env.version }

inductive Wrote (cfg : ControllerConfig) (env : Surroundings) (project : ProjectObject) (namespaces : NamespaceStore) :
    NamespaceStore → Prop
  | nothing : Wrote cfg env project namespaces namespaces
  | adopted (ns : NamespaceObject) (hnamed : project.namespaceName ≠ "")
      (hget : namespaces.get project.namespaceName = some ns) :
      Wrote cfg env project namespaces (namespaces.replace (stamped env (labelled cfg project ns)))
  | overwritten (ns : NamespaceObject) (hderived : project.namespaceName = "")
      (hget : namespaces.get (defaultProjectNamespaceName cfg project) = some ns)
      (hread : env.fault .getNamespace = none) (hnot : isManuallyOverridden cfg.toConfig ns.labels = false)
      (hupdate : env.fault .updateNamespace = none) :
      Wrote cfg env project namespaces
        (namespaces.replace (stamped env
          (carriedOver cfg ns (getNamespaceObject cfg project (defaultProjectNamespaceName cfg project)))))
  | created (hderived : project.namespaceName = "")
      (hget : namespaces.get (defaultProjectNamespaceName cfg project) = none) :
      Wrote cfg env project namespaces
        (namespaces.insert (stamped env (getNamespaceObject cfg project (defaultProjectNamespaceName cfg project))))

theorem readCall_ok_fault {α : Type} {place : Place} {name : String} {found : Option α} {a : α}
    (h : readCall env place name found = .ok a) : env.fault place = none := by
  unfold readCall at h
  split at h <;> simp_all

theorem updateNamespace_ok {ns : NamespaceObject} {written : NamespaceStore}
    (h : updateNamespace env ns namespaces = .ok written) :
    env.fault .updateNamespace = none ∧ written = namespaces.replace (stamped env ns) := by
  have hwritten := mapError_ok h
  refine ⟨?_, (writeCall_ok hwritten).symm⟩
  unfold writeCall at hwritten
  split at hwritten
  · cases hwritten
  · assumption

variable (env project namespaces) in
theorem handled_wrote (hcreate : cfg.createNamespaces = true) :
    Wrote cfg env project namespaces (handled cfg env project namespaces) := by
  unfold handled
  split
  · rename_i written h
    unfold handleResourceInner at h
    rw [hcreate] at h
    simp only [Bool.not_true, Bool.false_eq_true, if_false] at h
    split_ifs at h with hnamed
    · -- a namespace the user named is only labelled
      unfold handleUserExternalNamespaceForProject at h
      split at h
      · split_ifs at h
      · rename_i ns hread
        unfold labelExternalNamespaceForProject at h
        split_ifs at h
        · obtain ⟨-, rfl⟩ := updateNamespace_ok h
          exact .adopted ns hnamed (readCall_ok hread)
        · cases h
          exact .nothing
    · have hderived : project.namespaceName = "" := not_not.1 hnamed
      split at h
      · split_ifs at h
        have hcreated := mapError_ok h
        split at hcreated
        · split_ifs at hcreated
          cases hcreated
          exact .nothing
        · cases hcreated
          exact .nothing
        · rename_i hnone
          cases hcreated
          exact .created hderived hnone
      · rename_i ns hread
        unfold handleExistingNamespace at h
        split_ifs at h with hoverridden
        · cases h
          exact .nothing
        · cases h
          exact .nothing
        · obtain ⟨hupdate, rfl⟩ := updateNamespace_ok h
          exact .overwritten ns hderived (readCall_ok hread) (readCall_ok_fault hread) (by simpa using hoverridden)
            hupdate
  · exact .nothing

end

/-! ## Labels after a write -/

section

variable {cfg : ControllerConfig} {env : Surroundings} {project : ProjectObject} {namespaces : NamespaceStore}

theorem projectLabel_written {after : NamespaceStore} {new : NamespaceObject} (name : String) (hname : new.name = name)
    (h : after = namespaces.replace (stamped env new) ∧ namespaces.get name ≠ none ∨
      after = namespaces.insert (stamped env new) ∧ namespaces.get name = none) (namespaceName : String) :
    projectLabel cfg after namespaceName =
      if namespaceName = name then new.labels.lookup cfg.namespaceProjectLabelKey
      else projectLabel cfg namespaces namespaceName := by
  have hstamped : (stamped env new).name = name := hname
  obtain ⟨hagree, hget⟩ : namespaces.AgreeOff [name] after ∧ after.get name = some (stamped env new) := by
    rcases h with ⟨rfl, hsome⟩ | ⟨rfl, hnone⟩
    · exact ⟨Store.agreeOff_replace _ _ hstamped,
        Store.get_replace_self _ _ hstamped (Option.isSome_iff_ne_none.2 hsome)⟩
    · exact ⟨Store.agreeOff_insert _ _ hstamped, Store.get_insert_self _ _ hstamped hnone⟩
  unfold projectLabel
  split_ifs with h
  · rw [h, hget]
    rfl
  · rw [hagree.get_eq (by simpa using h)]

theorem mem_getNamespaceObject (cfg : ControllerConfig) (project : ProjectObject) (name : String) :
    cfg.namespaceProjectLabelKey ∈ (getNamespaceObject cfg project name).labels := by
  unfold getNamespaceObject
  dsimp only
  split_ifs <;> simp [Finmap.mem_insert]

theorem carriedOver_label (ns : NamespaceObject) (name : String) :
    (carriedOver cfg ns (getNamespaceObject cfg project name)).labels.lookup cfg.namespaceProjectLabelKey =
      (getNamespaceObject cfg project name).labels.lookup cfg.namespaceProjectLabelKey :=
  Finmap.lookup_union_left (mem_getNamespaceObject cfg project name)

theorem labelled_label {ns : NamespaceObject} {label : String}
    (h : ns.labels.lookup cfg.namespaceProjectLabelKey = some label) :
    (labelled cfg project ns).labels.lookup cfg.namespaceProjectLabelKey = some label := by
  simp [labelled, lacksProjectLabel, h]

theorem handled_keeps (hcreate : cfg.createNamespaces = true) {owner namespaceName : String}
    (hnot : ¬ Overwrites cfg env project namespaces owner)
    (hlabel : projectLabel cfg namespaces namespaceName = some owner) :
    projectLabel cfg (handled cfg env project namespaces) namespaceName = some owner := by
  have hwrote := handled_wrote env project namespaces hcreate
  generalize handled cfg env project namespaces = after at hwrote
  cases hwrote with
  | nothing => exact hlabel
  | adopted ns hnamed hget =>
    have hkey : (labelled cfg project ns).name = project.namespaceName := ((Store.get_eq_some_iff _ _ _).1 hget).2
    rw [projectLabel_written _ hkey (.inl ⟨rfl, by simp [hget]⟩)]
    split_ifs with hname
    · rw [projectLabel, hname, hget] at hlabel
      exact labelled_label hlabel
    · exact hlabel
  | overwritten ns hderived hget hread hover hupdate =>
    rw [projectLabel_written (defaultProjectNamespaceName cfg project) rfl (.inl ⟨rfl, by simp [hget]⟩)]
    split_ifs with hname
    · rw [hname] at hlabel
      rw [carriedOver_label]
      by_contra hother
      refine hnot ⟨hderived, hlabel, hread, fun ns' hget' => ?_, hupdate, hother⟩
      rw [hget] at hget'
      exact Option.some.inj hget' ▸ hover
    · exact hlabel
  | created hderived hget =>
    rw [projectLabel_written (defaultProjectNamespaceName cfg project) rfl (.inr ⟨rfl, hget⟩)]
    split_ifs with hname
    · rw [projectLabel, hname, hget] at hlabel
      cases hlabel
    · exact hlabel

theorem overwrites_changes (hcreate : cfg.createNamespaces = true) {owner : String}
    (h : Overwrites cfg env project namespaces owner) :
    projectLabel cfg (handled cfg env project namespaces) (defaultProjectNamespaceName cfg project) ≠ some owner := by
  obtain ⟨ns, hget, hlabel⟩ := Option.bind_eq_some_iff.1 h.labelled
  have hread : readCall env .getNamespace (defaultProjectNamespaceName cfg project)
      (namespaces.get (defaultProjectNamespaceName cfg project)) = .ok ns := by
    simp only [readCall, h.read, hget]
  have hdiffers : namespacesEqual cfg (getNamespaceObject cfg project (defaultProjectNamespaceName cfg project)) ns =
      false := by
    obtain ⟨label, hnew⟩ := Finmap.mem_iff.1 (mem_getNamespaceObject cfg project (defaultProjectNamespaceName cfg project))
    have hother := h.other
    rw [hnew] at hother
    have hne : label ≠ owner := fun heq => hother (congrArg some heq)
    simp [namespacesEqual, Labels.value, hnew, hlabel, hne]
  have hhandled : handled cfg env project namespaces = namespaces.replace (stamped env
      (carriedOver cfg ns (getNamespaceObject cfg project (defaultProjectNamespaceName cfg project)))) := by
    simp only [handled, handleResourceInner, hcreate, h.derived, hread, handleExistingNamespace, h.not_overridden ns hget,
      hdiffers, updateNamespace, writeCall, h.written, failing, Except.mapError, Bool.not_true, Bool.false_eq_true, if_false, ne_eq,
      not_true_eq_false, stamped]
  rw [hhandled, projectLabel_written (defaultProjectNamespaceName cfg project) rfl (.inl ⟨rfl, by simp [hget]⟩),
    if_pos rfl, carriedOver_label]
  exact h.other

/-! ## Runs -/

theorem kept_iff_respectful (hcreate : cfg.createNamespaces = true) (t : Tenancy) (event : Event) :
    Kept cfg t event ↔ Respectful cfg t event := by
  cases event with
  | reconcile name env =>
    simp only [Kept, Respectful, step]
    cases hget : t.projects.get name with
    | none => simp
    | some project =>
      constructor
      · rintro hkept _ ⟨⟩ owner howner hne hoverwrites
        exact overwrites_changes hcreate hoverwrites (hkept owner howner hne _ hoverwrites.labelled)
      · intro hrespectful owner howner hne namespaceName hlabel
        exact handled_keeps hcreate (hrespectful project rfl owner howner hne) hlabel
  | _ => exact Iff.rfl

/-- Labels stay exactly when no reconcile meets one under a derived name. -/
theorem namespaces_exclusive_iff (hcreate : cfg.createNamespaces = true) (start : Tenancy) (events : List Event) :
    Along (step cfg) (Kept cfg) start events ↔ Along (step cfg) (Respectful cfg) start events :=
  Along.congr (kept_iff_respectful hcreate) start events

/-! ## Projects that stay clear of each other's derived names -/

/-- The project names nothing derived from another. -/
def StaysClear (cfg : ControllerConfig) (names : List String) (project : ProjectObject) : Prop :=
  project.name ∈ names ∧ ∀ other ∈ names, other ≠ project.name → project.namespaceName ≠ namespacePrefix cfg ++ other

/-- No project's namespace has a name derived from another. -/
def LabelledApart (cfg : ControllerConfig) (names : List String) (ns : NamespaceObject) : Prop :=
  ∀ owner ∈ names, ns.labels.lookup cfg.namespaceProjectLabelKey = some owner →
    ∀ other ∈ names, other ≠ owner → ns.name ≠ namespacePrefix cfg ++ other

structure Separate (cfg : ControllerConfig) (names : List String) (t : Tenancy) : Prop where
  projects : ∀ project ∈ t.projects.items, StaysClear cfg names project
  namespaces : ∀ ns ∈ t.namespaces.items, LabelledApart cfg names ns

/-- What users write keeps projects and namespaces apart. -/
def KeepsApart (cfg : ControllerConfig) (names : List String) : Event → Prop
  | .createProject project => StaysClear cfg names project
  | .editProject project => StaysClear cfg names project
  | .createNamespace ns => LabelledApart cfg names ns
  | .editNamespace ns => LabelledApart cfg names ns
  | _ => True

section

variable (hcreate : cfg.createNamespaces = true) (hversion : cfg.namespaceProjectLabelKey ≠ cfg.namespaceVersionLabelKey)
  (hmonitoring : cfg.namespaceProjectLabelKey ≠ "openshift.io/cluster-monitoring") {names : List String}
include hversion hmonitoring

theorem getNamespaceObject_label (name : String) :
    (getNamespaceObject cfg project name).labels.lookup cfg.namespaceProjectLabelKey = some project.name := by
  unfold getNamespaceObject
  dsimp only
  split_ifs <;> simp [Finmap.lookup_insert_of_ne, hversion, hmonitoring]

omit hversion hmonitoring in
variable (project) in
theorem labelledApart_derived {ns : NamespaceObject}
    (hname : ns.name = defaultProjectNamespaceName cfg project)
    (hlabel : ns.labels.lookup cfg.namespaceProjectLabelKey = some project.name) : LabelledApart cfg names ns := by
  intro owner _ howner other _ hne heq
  rw [hlabel, Option.some.injEq] at howner
  rw [hname, defaultProjectNamespaceName, howner] at heq
  exact hne (String.append_right_inj _ |>.1 heq).symm

omit hversion hmonitoring in
theorem labelledApart_labelled {ns : NamespaceObject} (hclear : StaysClear cfg names project)
    (hname : ns.name = project.namespaceName) (hns : LabelledApart cfg names ns) :
    LabelledApart cfg names (labelled cfg project ns) := by
  cases hold : ns.labels.lookup cfg.namespaceProjectLabelKey with
  | some label =>
    intro owner howner hlabel
    rw [labelled_label hold] at hlabel
    exact hns owner howner (hold.trans hlabel)
  | none =>
    have hnew : (labelled cfg project ns).labels.lookup cfg.namespaceProjectLabelKey = some project.name := by
      simp [labelled, lacksProjectLabel, hold]
    intro owner _ hlabel other hother hne
    rw [hnew, Option.some.injEq] at hlabel
    have hnamed := hclear.2 other hother (hlabel ▸ hne)
    rwa [← hname] at hnamed

include hcreate

theorem handled_labelledApart
    (hclear : StaysClear cfg names project) (h : ∀ ns ∈ namespaces.items, LabelledApart cfg names ns) :
    ∀ ns ∈ (handled cfg env project namespaces).items, LabelledApart cfg names ns := by
  have hwrote := handled_wrote env project namespaces hcreate
  generalize handled cfg env project namespaces = after at hwrote
  cases hwrote with
  | nothing => exact h
  | adopted ns hnamed hget =>
    refine Store.forall_replace h (labelledApart_labelled hclear ?_ (h ns (Store.get_mem hget)))
    exact ((Store.get_eq_some_iff _ _ _).1 hget).2
  | overwritten ns hderived hget hread hover hupdate =>
    refine Store.forall_replace h (labelledApart_derived project rfl ?_)
    exact (carriedOver_label ns _).trans (getNamespaceObject_label hversion hmonitoring _)
  | created hderived hget =>
    exact Store.forall_insert h
      (labelledApart_derived project rfl (getNamespaceObject_label hversion hmonitoring _))

theorem step_separate {t : Tenancy} {event : Event} (h : Separate cfg names t) (hevent : KeepsApart cfg names event) :
    Separate cfg names (step cfg t event) := by
  cases event with
  | createProject project => exact ⟨Store.forall_insert h.projects hevent, h.namespaces⟩
  | editProject project => exact ⟨Store.forall_replace h.projects hevent, h.namespaces⟩
  | deleteProject name => exact ⟨Store.forall_remove h.projects, h.namespaces⟩
  | createNamespace ns => exact ⟨h.projects, Store.forall_insert h.namespaces hevent⟩
  | editNamespace ns => exact ⟨h.projects, Store.forall_replace h.namespaces hevent⟩
  | deleteNamespace name => exact ⟨h.projects, Store.forall_remove h.namespaces⟩
  | reconcile name env =>
    simp only [step]
    cases hget : t.projects.get name with
    | none => exact h
    | some project =>
      exact ⟨h.projects, handled_labelledApart hcreate hversion hmonitoring (h.projects project (Store.get_mem hget))
        h.namespaces⟩

end

theorem Separate.respectful {names : List String} {t : Tenancy} (h : Separate cfg names t) (event : Event) :
    Respectful cfg t event := by
  cases event with
  | reconcile name env =>
    intro project hget owner howner hne hoverwrites
    obtain ⟨ns, hns, hlabel⟩ := Option.bind_eq_some_iff.1 hoverwrites.labelled
    have hname : project.name = name := ((Store.get_eq_some_iff _ _ _).1 hget).2
    refine h.namespaces ns (Store.get_mem hns) owner.name (h.projects owner howner).1 hlabel project.name
      (h.projects project (Store.get_mem hget)).1 (fun heq => hne (heq.symm.trans hname)) ?_
    exact ((Store.get_eq_some_iff _ _ _).1 hns).2
  | _ => trivial

/-- Where the names are kept apart, every namespace stays with its project. -/
theorem namespaces_exclusive_of_apart (hcreate : cfg.createNamespaces = true)
    (hversion : cfg.namespaceProjectLabelKey ≠ cfg.namespaceVersionLabelKey)
    (hmonitoring : cfg.namespaceProjectLabelKey ≠ "openshift.io/cluster-monitoring") {names : List String}
    {start : Tenancy} {events : List Event} (hstart : Separate cfg names start)
    (hevents : ∀ event ∈ events, KeepsApart cfg names event) : Along (step cfg) (Kept cfg) start events := by
  refine Along.of_invariant (P := Separate cfg names) ?_ ?_ hstart
  · intro t event hevent ht
    exact step_separate hcreate hversion hmonitoring ht (hevents event hevent)
  · intro t event _ ht
    exact (kept_iff_respectful hcreate t event).2 (ht.respectful event)

end

/-! ## An adopted namespace, met under a derived name and under its own -/

namespace Adoption

def projectNamed (name namespaceName : String) : ProjectObject where
  name := name
  uid := "u-" ++ name
  parent := ""
  queues := []
  labels := ∅
  finalizers := []
  namespaceName := namespaceName
  enforceKaiScheduler := true
  blockingDeletion := false
  statusNamespace := ""

def plain (name : String) : NamespaceObject := ⟨⟨name, ∅⟩, "Namespace", "v1", "u3", [], ∅, [], 1⟩

def start : Tenancy := ⟨.empty, .single (plain "kai-b")⟩

/-- Project `a` adopts `kai-b`, then `b` is created with the given namespace. -/
def adoptedThen (namespaceName : String) : List Event :=
  [.createProject (projectNamed "a" "kai-b"), .reconcile "a" Sample.surroundings,
    .createProject (projectNamed "b" namespaceName), .reconcile "b" Sample.surroundings]

end Adoption

open Adoption in
theorem derived_name_takes_adopted_namespace :
    (ControllerConfig.default false).createNamespaces = true ∧
    ¬ Along (step (.default false)) (Kept (.default false)) start (adoptedThen "") := by
  refine ⟨rfl, fun h => ?_⟩
  obtain ⟨-, -, -, hkept, -⟩ := h
  have hlabel := hkept (projectNamed "a" "kai-b") (.head _) (by decide) "kai-b" (by decide +kernel)
  exact absurd hlabel (by decide +kernel)

open Adoption in
theorem second_adoption_refused :
    (ControllerConfig.default false).createNamespaces = true ∧
    Along (step (.default false)) (Kept (.default false)) start (adoptedThen "kai-b") := by
  refine ⟨rfl, (namespaces_exclusive_iff rfl start _).2 ⟨trivial, ?_, trivial, ?_, trivial⟩⟩
  · rintro project hget owner - - hoverwrites
    obtain rfl : projectNamed "a" "kai-b" = project := Option.some.inj hget
    exact absurd hoverwrites.derived (by decide)
  · rintro project hget owner - - hoverwrites
    obtain rfl : projectNamed "b" "kai-b" = project := Option.some.inj hget
    exact absurd hoverwrites.derived (by decide)

open Adoption in
theorem derived_namespaces_stay_apart :
    Along (step (.default false)) (Kept (.default false)) start
      [.createProject (projectNamed "a" ""), .reconcile "a" Sample.surroundings,
        .createProject (projectNamed "b" ""), .reconcile "b" Sample.surroundings] := by
  -- Neither project names a namespace, and the one that `b` finds is nobody's.
  have hstart : Separate (.default false) ["a", "b"] start := ⟨nofun, List.forall_mem_singleton.2 fun _ _ => nofun⟩
  have hclear : ∀ name ∈ ["a", "b"], StaysClear (.default false) ["a", "b"] (projectNamed name "") := by
    unfold StaysClear
    decide
  exact namespaces_exclusive_of_apart rfl (by decide) (by decide) hstart (by simpa [KeepsApart] using hclear)

end Krm.Projects.Exclusive
