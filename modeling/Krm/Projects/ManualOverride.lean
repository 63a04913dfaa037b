import Krm.Projects.Reconcile
import Krm.Queues.DepartmentConverges
import Krm.Queues.Frames
import Krm.Queues.ProjectConverges

/-! # Objects with the manual-override label

The label is tested before a default namespace, a project's queue or a limit range is updated, and before the queues of
a deleted project go. It is not tested before a namespace that the user names is labelled, before a department's queue is
updated, before a queue that is no longer in the spec goes, nor before a deleted project is removed from the owners of
its limit range. -/

open Krm.Lib
open Krm.Queues hiding isManuallyOverridden

namespace Krm.Projects

/-! ## What stays -/

def OverriddenNamespace (cfg : Config) (ns : NamespaceObject) : Prop := isManuallyOverridden cfg ns.labels

def OverriddenQueue (cfg : Config) (q : Queue) : Prop := Queues.isManuallyOverridden cfg q

def OverriddenLimitRange (cfg : Config) (limitRange : LimitRange) : Prop := isManuallyOverridden cfg limitRange.labels

/-- Every object with the label is as it was. -/
structure Untouched (cfg : Config) (c c' : Cluster) : Prop where
  namespaces : c.namespaces.Spares (OverriddenNamespace cfg) c'.namespaces
  queues : c.queues.Spares (OverriddenQueue cfg) c'.queues
  limitRanges : c.limitRanges.Spares (OverriddenLimitRange cfg) c'.limitRanges

theorem Untouched.refl {cfg : Config} {c : Cluster} : Untouched cfg c c := ⟨.refl, .refl, .refl⟩

/-! ## Namespaces -/

namespace NamespaceResourceHandler

variable {cfg : ControllerConfig} {env : Surroundings} {namespaces namespaces' : NamespaceStore}

theorem updateNamespace_spares {p : NamespaceObject → Prop} {ns existing : NamespaceObject} {name : String}
    (hget : namespaces.get name = some existing) (hname : ns.name = name) (hp : ¬ p existing)
    (h : updateNamespace env ns namespaces = .ok namespaces') : namespaces.Spares p namespaces' := by
  obtain rfl := writeCall_ok (mapError_ok h)
  exact .replace_get hget hname hp

/-- The project has nothing to write on a namespace that the user names. -/
def Settled (cfg : ControllerConfig) (project : ProjectObject) (ns : NamespaceObject) : Prop :=
  otherProjectLabelled cfg project ns ∨
    (lacksProjectLabel cfg ns || enforcementStale cfg project ns) = false

/-- So it is with an overridden one. -/
def NamedSettled (cfg : ControllerConfig) (project : ProjectObject) (namespaces : NamespaceStore) : Prop :=
  cfg.createNamespaces → project.namespaceName ≠ "" → ∀ ns ∈ namespaces.items, OverriddenNamespace cfg.toConfig ns →
    ns.name = project.namespaceName → Settled cfg project ns

theorem handleUserExternalNamespace_spares {project : ProjectObject} (hcreate : cfg.createNamespaces)
    (huser : project.namespaceName ≠ "") (hnamed : NamedSettled cfg project namespaces)
    (h : handleUserExternalNamespaceForProject cfg env project namespaces = .ok namespaces') :
    namespaces.Spares (OverriddenNamespace cfg.toConfig) namespaces' := by
  unfold handleUserExternalNamespaceForProject at h
  split at h
  · split_ifs at h
  · rename_i existing hread
    have hget := readCall_ok hread
    have hname : existing.name = project.namespaceName := ((Store.get_eq_some_iff _ _ _).1 hget).2
    unfold labelExternalNamespaceForProject at h
    split_ifs at h with hother hneeds
    · have hlabelled : (labelled cfg project existing).name = project.namespaceName := hname
      refine updateNamespace_spares hget hlabelled ?_ h
      intro hoverridden
      rcases hnamed hcreate huser existing (Store.get_mem hget) hoverridden hname with hothers | hsettled
      · exact hother hothers
      · simp [hneeds] at hsettled
    · exact Except.ok.inj h ▸ .refl

theorem handleExistingNamespace_spares {existing new : NamespaceObject} {name : String}
    (hget : namespaces.get name = some existing) (hname : new.name = name)
    (h : handleExistingNamespace cfg env existing new namespaces = .ok namespaces') :
    namespaces.Spares (OverriddenNamespace cfg.toConfig) namespaces' := by
  unfold handleExistingNamespace at h
  split_ifs at h with hoverridden hequal
  · exact Except.ok.inj h ▸ .refl
  · exact Except.ok.inj h ▸ .refl
  · have hcarried : (carriedOver cfg existing new).name = name := hname
    exact updateNamespace_spares hget hcarried hoverridden h

theorem handleNonExistingNamespace_spares {p : NamespaceObject → Prop} {new : NamespaceObject}
    (h : handleNonExistingNamespace env new namespaces = .ok namespaces') : namespaces.Spares p namespaces' := by
  have hcreate := mapError_ok h
  split at hcreate
  · split_ifs at hcreate
    exact Except.ok.inj hcreate ▸ .refl
  · exact Except.ok.inj hcreate ▸ .refl
  · exact Except.ok.inj hcreate ▸ .insert _

theorem handleResourceInner_spares {project : ProjectObject}
    (hnamed : NamedSettled cfg project namespaces) (h : handleResourceInner cfg env project namespaces = .ok namespaces') :
    namespaces.Spares (OverriddenNamespace cfg.toConfig) namespaces' := by
  unfold handleResourceInner at h
  split_ifs at h with hcreate huser
  · obtain ⟨name, -, rfl⟩ := map_ok (mapError_ok h)
    exact .refl
  · exact handleUserExternalNamespace_spares (by simpa using hcreate) huser hnamed h
  · dsimp only at h
    split at h
    · split_ifs at h
      exact handleNonExistingNamespace_spares h
    · rename_i existing hread
      exact handleExistingNamespace_spares (readCall_ok hread) rfl h

theorem labelled_ne {project : ProjectObject} {ns : NamespaceObject} {version : Nat}
    (h : lacksProjectLabel cfg ns || enforcementStale cfg project ns) :
    { labelled cfg project ns with resourceVersion := version } ≠ ns := by
  intro heq
  have hlabels := congrArg (fun ns : NamespaceObject => ns.labels.lookup cfg.namespaceProjectLabelKey) heq
  have hannotations := congrArg (fun ns : NamespaceObject => ns.annotations.lookup cfg.enforceSchedulerAnnotationKey) heq
  simp only [labelled, Finmap.lookup_insert] at hlabels hannotations
  rcases Bool.or_eq_true_iff.1 h with hlacks | hstale
  · simp only [hlacks, if_true, Finmap.lookup_insert] at hlabels
    simp [lacksProjectLabel, ← hlabels] at hlacks
  · simp [enforcementStale, ← hannotations] at hstale

/-- A named namespace stays exactly when nothing is to be written. -/
theorem handleResourceInner_spares_iff {project : ProjectObject}
    (h : handleResourceInner cfg env project namespaces = .ok namespaces') :
    namespaces.Spares (OverriddenNamespace cfg.toConfig) namespaces' ↔ NamedSettled cfg project namespaces := by
  refine ⟨fun hspares hcreate hnamed ns hns hoverridden hname => ?_, fun hnamed => handleResourceInner_spares hnamed h⟩
  have hget : namespaces.get project.namespaceName = some ns := hname ▸ Store.get_of_mem hns
  by_contra hsettled
  simp only [Settled, not_or, Bool.not_eq_true, Bool.not_eq_false] at hsettled
  simp only [handleResourceInner, hcreate, hnamed, Bool.not_true, Bool.false_eq_true, ne_eq, not_false_eq_true, if_true,
    if_false, handleUserExternalNamespaceForProject] at h
  split at h
  · split_ifs at h
  · rename_i existing hread
    cases hget.symm.trans (readCall_ok hread)
    simp only [labelExternalNamespaceForProject, hsettled.1, hsettled.2, if_true] at h
    obtain rfl := writeCall_ok (mapError_ok h)
    exact hspares.not_of_replace hget hname (labelled_ne hsettled.2) hoverridden

end NamespaceResourceHandler

/-! ## Limit ranges -/

section

variable {cfg : ControllerConfig} {env : Surroundings} {limitRanges limitRanges' : LimitRangeStore}

theorem LimitRangeResourceHandler.getNamespacedLimitRange_existing {project : ProjectObject} {c : Cluster}
    {limitRange : LimitRange} (h : getNamespacedLimitRange cfg env project c = .ok (limitRange, false)) :
    ∃ key, c.limitRanges.get key = some limitRange := by
  obtain ⟨namespaceName, -, hread⟩ := bind_ok h
  split at hread
  · split_ifs at hread
    simp at hread
  · rename_i existing hexisting
    simp only [Except.ok.injEq, Prod.mk.injEq] at hread
    exact ⟨_, hread.1 ▸ readCall_ok hexisting⟩

theorem LimitRangeResourceHandler.createOrUpdateLimitRange_spares {p : LimitRange → Prop} {shouldCreate : Bool}
    {written existing : LimitRange}
    (hget : shouldCreate = false → limitRanges.get written.key = some existing) (hp : ¬ p existing)
    (h : createOrUpdateLimitRange env shouldCreate written limitRanges = .ok limitRanges') :
    limitRanges.Spares p limitRanges' := by
  simp only [createOrUpdateLimitRange] at h
  split_ifs at h with hcreate
  · split at h
    · simp at h
    · simp at h
    · exact Except.ok.inj h ▸ .insert _
  · obtain rfl := writeCall_ok h
    exact .replace_get (hget (by simpa using hcreate)) rfl hp

theorem LimitRangeResourceHandler.handleResourceInner_spares {project : ProjectObject} {c : Cluster}
    (h : handleResourceInner cfg env project c = .ok limitRanges') :
    c.limitRanges.Spares (OverriddenLimitRange cfg.toConfig) limitRanges' := by
  unfold handleResourceInner at h
  split at h
  · split_ifs at h
    exact Except.ok.inj h ▸ .refl
  · obtain ⟨⟨limitRange, shouldCreate⟩, hread, hwrite⟩ := bind_ok h
    dsimp only at hwrite
    split_ifs at hwrite with hoverridden
    · exact Except.ok.inj hwrite ▸ .refl
    · refine createOrUpdateLimitRange_spares (fun hexisting => ?_) hoverridden hwrite
      subst hexisting
      obtain ⟨key, hget⟩ := getNamespacedLimitRange_existing hread
      have hkey : limitRange.key = key := Store.get_key hget
      exact (congrArg _ hkey).trans hget

/-- An overridden limit range that is found has another owner. -/
def LimitRangeDeletionHandler.Disowned (cfg : ControllerConfig) (env : Surroundings) (project : ProjectObject)
    (c : Cluster) : Prop :=
  ∀ namespaceName limitRange, kaiProjectToNamespace env cfg .deletedNamespace project c.namespaces = .ok namespaceName →
    env.fault .getDeletedLimitRange = none →
    c.limitRanges.get (namespaceName, cfg.limitRangeName) = some limitRange →
    OverriddenLimitRange cfg.toConfig limitRange → isProjectOwner project limitRange.ownerReferences = none

theorem LimitRangeDeletionHandler.deleteOwnerRef_ne {owners : List OwnerReference} (h : owners ≠ []) (index : Nat) :
    deleteOwnerRef owners index ≠ owners := by
  intro heq
  have hlength := congrArg List.length heq
  have hpos := List.length_pos_of_ne_nil h
  simp only [deleteOwnerRef, List.getLast?_eq_some_getLast h, List.length_dropLast, List.length_set] at hlength
  omega

theorem LimitRangeDeletionHandler.onDelete_spares_iff {project : ProjectObject} {c : Cluster}
    (h : onDelete cfg env project c = .ok limitRanges') :
    c.limitRanges.Spares (OverriddenLimitRange cfg.toConfig) limitRanges' ↔ Disowned cfg env project c := by
  unfold onDelete onDeleteInner at h
  unfold Disowned
  cases hnamespace : kaiProjectToNamespace env cfg .deletedNamespace project c.namespaces with
  | error e =>
    rw [hnamespace] at h
    refine ⟨fun _ _ _ hok => ?_, fun _ => Except.ok.inj h ▸ .refl⟩
    cases hok
  | ok namespaceName =>
    rw [hnamespace] at h
    dsimp only at h
    split at h
    · rename_i e hread
      split_ifs at h
      refine ⟨fun _ name limitRange hname hfault hget => ?_, fun _ => Except.ok.inj h ▸ .refl⟩
      cases hname
      simp [readCall, hfault, hget] at hread
    · rename_i existing hread
      have hget := readCall_ok hread
      have hkey : existing.key = (namespaceName, cfg.limitRangeName) := Store.get_key hget
      unfold removeOwnerRef at h
      split at h
      · -- the project owns it no more: no write
        rename_i hnone
        refine ⟨fun _ name limitRange hname hfault hget' _ => ?_, fun _ => Except.ok.inj h ▸ .refl⟩
        cases hname
        cases hget.symm.trans hget'
        exact hnone
      · rename_i index howner
        obtain rfl := writeCall_ok h
        constructor
        · intro hspares name limitRange hname hfault hget' hoverridden
          cases hname
          cases hget.symm.trans hget'
          have howners : existing.ownerReferences ≠ [] := by
            rintro hempty
            simp [hempty, isProjectOwner] at howner
          refine absurd hoverridden (hspares.not_of_replace hget hkey fun heq => ?_)
          exact deleteOwnerRef_ne howners index (congrArg LimitRange.ownerReferences heq)
        · intro hdisowned
          refine .replace_get hget hkey fun hoverridden => ?_
          have hfault : env.fault .getDeletedLimitRange = none := by
            by_contra hfault
            obtain ⟨e, he⟩ := Option.ne_none_iff_exists'.1 hfault
            simp [readCall, he] at hread
          simp [hdisowned namespaceName existing rfl hfault hget hoverridden] at howner

end

/-! ## Queues -/

/-- Reads see what is stored, and no one else touches a queue with the label. -/
structure Undisturbed (cfg : Config) (env : Environment) : Prop where
  current : ∀ i s, Current (env i s)
  selected : ∀ i s sel listed, (env i s).view.listQueues sel = .ok listed → ∀ q ∈ listed, sel.Matches q.labels
  spared : ∀ i (s : QueueStore), s.Spares (OverriddenQueue cfg) (env i s).store

section

variable {cfg : Config} {env : Environment} (henv : Undisturbed cfg env) {s : QueueStore}
include henv

theorem Undisturbed.lookup_listed {i : Nat} {s : QueueStore} {key value : String} {listed : List Queue}
    (h : listQueuesWithLabelSelector (env i s).view key value = .ok listed) {q : Queue} (hq : q ∈ listed) :
    q.labels.lookup key = some value := by
  have hmatches := henv.selected i s _ listed h q hq
  simpa [Selector.Matches, Requirement.matches_doubleEquals] using hmatches

theorem Undisturbed.spared_of (i : Nat) (s' : QueueStore) :
    s'.Spares (fun q => OverriddenQueue cfg q ∧ q ∈ s.items) (env i s').store :=
  fun q hq hp => henv.spared i s' q hq hp.1

theorem projectQueues_spares {project : Project}
    (hapart : ∀ q ∈ s.items, OverriddenQueue cfg q → q.labels.lookup cfg.projectLabelKey = some project.name →
      ¬ Removable cfg project.uid projectKind q) :
    s.Spares (OverriddenQueue cfg) (QueueResourceHandler.handleResourceInner cfg env project s).2 := by
  refine .of_mem (QueueResourceHandler.handleResourceInner_spares henv.current henv.spared_of ?_ ?_)
  · intro i s' e existing written hread hwrite
    unfold QueueResourceHandler.handleExisting at hwrite
    split_ifs at hwrite with hequal hoverridden
    · exact Except.ok.inj hwrite ▸ .refl
    · exact Except.ok.inj hwrite ▸ .refl
    · exact updateExistingQueue_spares (henv.current i s' existing hread) (fun _ hp => hoverridden hp.1) hwrite
  · intro listed hlisted d hd hunnecessary hp
    exact hapart d hp.2 hp.1 (henv.lookup_listed hlisted hd) (unnecessary_iff.1 hunnecessary).1

theorem departmentQueues_spares {department : Department}
    (hforeign : ∀ q ∈ s.items, OverriddenQueue cfg q → isOwnedByUID q.ownerReferences department.uid = false)
    (hapart : ∀ q ∈ s.items, OverriddenQueue cfg q →
      q.labels.lookup cfg.queueDepartmentNameLabelKey = some department.name →
      ¬ Removable cfg department.uid departmentKind q) :
    s.Spares (OverriddenQueue cfg) (DepartmentHandler.handle cfg env department s).2.2 := by
  refine .of_mem (DepartmentHandler.handle_spares henv.current henv.spared_of ?_ ?_)
  · intro i s' e existing written hread howned hwrite
    unfold DepartmentHandler.handleExisting at hwrite
    split_ifs at hwrite with hequal
    · exact Except.ok.inj hwrite ▸ .refl
    · refine updateExistingQueue_spares (henv.current i s' existing hread) (fun _ hp => ?_) hwrite
      exact absurd ((hforeign existing hp.2 hp.1).symm.trans howned) (by simp)
  · intro listed hlisted d hd hunnecessary hp
    exact hapart d hp.2 hp.1 (henv.lookup_listed hlisted hd) (unnecessary_iff.1 hunnecessary).1

theorem deletedQueues_spares (project : Project) :
    s.Spares (OverriddenQueue cfg) (QueueDeletionHandler.onDeleteInner cfg (env 0 s) project).2 := by
  refine (henv.spared 0 s).trans (QueueDeletionHandler.onDeleteInner_spares (henv.current 0 s) ?_)
  intro d _ _ hoverridden hd
  exact absurd (hoverridden.symm.trans hd) (by simp)

end

theorem projectQueues_spares_iff (r : QueueResourceHandler.ProjectRun) :
    r.before.Spares (OverriddenQueue r.cfg) r.run.final ↔
      ∀ q ∈ r.before.items, OverriddenQueue r.cfg q → q.labels.lookup r.cfg.projectLabelKey = some r.project.name →
        Removable r.cfg r.project.uid projectKind q →
        ∃ i < r.project.queues.length, r.run.reconciledAt i = some q.name := by
  refine forall₃_congr fun q hq hoverridden => ?_
  -- the entries pass over an overridden queue, so that only the deletion can take it
  have hfree : ∀ i, r.run.claim i ≠ some q.name := by
    intro i hclaim
    have hnot := (QueueResourceHandler.claimAt_writes hclaim).2
    rw [Store.get_of_mem hq] at hnot
    exact absurd (hoverridden.symm.trans hnot) (by simp)
  exact (r.run.mem_final q).trans (and_iff_right ((r.run.mem_done hfree).1 hq))

theorem departmentQueues_spares_iff (r : DepartmentHandler.DepartmentRun) :
    r.before.Spares (OverriddenQueue r.cfg) r.run.final ↔
      ∀ q ∈ r.before.items, OverriddenQueue r.cfg q → (∀ i, r.run.claim i ≠ some q.name) ∧
        (q.labels.lookup r.cfg.queueDepartmentNameLabelKey = some r.department.name →
          Removable r.cfg r.department.uid departmentKind q →
          ∃ i < r.department.queues.length, r.run.reconciledAt i = some q.name) := by
  refine forall₃_congr fun q hq hoverridden => (r.run.mem_final q).trans ?_
  constructor
  · rintro ⟨hdone, hkept⟩
    refine ⟨fun i hclaim => ?_, hkept⟩
    -- what stands under a claimed name carries the labels of the department alone
    obtain ⟨_, _, _, _, hmade, -⟩ := r.last hdone ⟨i, hclaim⟩
    exact absurd (hoverridden.symm.trans hmade.not_overridden) (by simp)
  · rintro ⟨hfree, hreconciled⟩
    exact ⟨(r.run.mem_done hfree).1 hq, hreconciled⟩

/-! ## Runs -/

inductive Run where
  | reconcileProject (project : ProjectObject)
  | finalizeProject (project : ProjectObject)
  | reconcileDepartment (department : Department)

def Run.exec (cfg : ControllerConfig) (env : Surroundings) (c : Cluster) : Run → List ApiError × Cluster
  | .reconcileProject project => Krm.Projects.reconcileProject cfg env project c
  | .finalizeProject project => finalize cfg env project c
  | .reconcileDepartment department => Krm.Projects.reconcileDepartment cfg env department c

/-- No write that does not test the label reaches such an object. -/
def Run.OutOfReach (cfg : ControllerConfig) (c : Cluster) : Run → Prop
  | .reconcileProject project =>
    NamespaceResourceHandler.NamedSettled cfg project c.namespaces ∧
    (∀ q ∈ c.queues.items, OverriddenQueue cfg.toConfig q → q.labels.lookup cfg.projectLabelKey = some project.name →
      ¬ Removable cfg.toConfig project.uid projectKind q)
  | .finalizeProject project =>
    ∀ limitRange ∈ c.limitRanges.items, OverriddenLimitRange cfg.toConfig limitRange →
      LimitRangeDeletionHandler.isProjectOwner project limitRange.ownerReferences = none
  | .reconcileDepartment department =>
    (∀ q ∈ c.queues.items, OverriddenQueue cfg.toConfig q →
      isOwnedByUID q.ownerReferences department.uid = false) ∧
    (∀ q ∈ c.queues.items, OverriddenQueue cfg.toConfig q →
      q.labels.lookup cfg.queueDepartmentNameLabelKey = some department.name →
      ¬ Removable cfg.toConfig department.uid departmentKind q)

/-- Distinct node pools, and suffixes that do not collide. -/
def Run.Regular (cfg : ControllerConfig) (rand : Nat → Nat → Nat → String) (c : Cluster) : Run → Prop
  | .reconcileProject project =>
    (project.queues.map QueueConfig.nodepool).Nodup ∧
      NoCollision cfg.toConfig project.queues project.name rand c.queues
  | .finalizeProject _ => True
  | .reconcileDepartment department =>
    (department.queues.map QueueConfig.nodepool).Nodup ∧
      NoCollision cfg.toConfig department.queues department.name rand c.queues

/-- No write reaches the named namespace, an overridden queue or an overridden limit range. -/
def Run.Clear (cfg : ControllerConfig) (env : Surroundings) (rand : Nat → Nat → Nat → String) (c : Cluster) : Run → Prop
  | .reconcileProject project =>
    NamespaceResourceHandler.NamedSettled cfg project c.namespaces ∧
    (∀ q ∈ c.queues.items, OverriddenQueue cfg.toConfig q → q.labels.lookup cfg.projectLabelKey = some project.name →
      Removable cfg.toConfig project.uid projectKind q → ∃ i < project.queues.length,
        QueueResourceHandler.reconciledAt cfg.toConfig project.toProject rand c.queues i = some q.name)
  | .finalizeProject project =>
    finalizerName cfg ∈ project.finalizers → isManuallyOverridden cfg.toConfig project.labels = false →
      (project.blockingDeletion && !env.blocked.isEmpty) = false → cfg.limitRange →
        LimitRangeDeletionHandler.Disowned cfg env project c
  | .reconcileDepartment department =>
    ∀ q ∈ c.queues.items, OverriddenQueue cfg.toConfig q →
      (∀ i, claimAt (DepartmentHandler.plan cfg.toConfig department rand c.queues) department.queues i ≠
        some q.name) ∧
      (q.labels.lookup cfg.queueDepartmentNameLabelKey = some department.name →
        Removable cfg.toConfig department.uid departmentKind q → ∃ i < department.queues.length,
          DepartmentHandler.reconciledAt cfg.toConfig department rand c.queues i = some q.name)

section

variable {cfg : ControllerConfig} {env : Surroundings} {c : Cluster} {project : ProjectObject}

variable (cfg env c project) in
theorem handleNamespace_rest : (handleNamespace cfg env project c).2.queues = c.queues ∧
    (handleNamespace cfg env project c).2.limitRanges = c.limitRanges := by
  unfold handleNamespace
  split <;> exact ⟨rfl, rfl⟩

variable (cfg env c project) in
theorem handleLimitRange_rest : (handleLimitRange cfg env project c).2.namespaces = c.namespaces ∧
    (handleLimitRange cfg env project c).2.queues = c.queues ∧
    c.limitRanges.Spares (OverriddenLimitRange cfg.toConfig) (handleLimitRange cfg env project c).2.limitRanges := by
  unfold handleLimitRange
  split
  · exact ⟨rfl, rfl, .refl⟩
  · rename_i limitRanges hhandled
    exact ⟨rfl, rfl, LimitRangeResourceHandler.handleResourceInner_spares hhandled⟩

theorem reconcileProject_untouched_iff :
    Untouched cfg.toConfig c (reconcileProject cfg env project c).2 ↔
      c.namespaces.Spares (OverriddenNamespace cfg.toConfig) (handleNamespace cfg env project c).2.namespaces ∧
      c.queues.Spares (OverriddenQueue cfg.toConfig)
        (QueueResourceHandler.handleResourceInner cfg.toConfig env.queues project.toProject c.queues).2 := by
  obtain ⟨hqueues, hlimitRanges⟩ := handleNamespace_rest cfg env c project
  obtain ⟨hnamespaces', hqueues', hspares⟩ := handleLimitRange_rest cfg env
    (handleQueues cfg env project (handleNamespace cfg env project c).2).2 project
  have hdone : (handleQueues cfg env project (handleNamespace cfg env project c).2).2.queues =
      (QueueResourceHandler.handleResourceInner cfg.toConfig env.queues project.toProject c.queues).2 := by
    rw [← hqueues]
    rfl
  unfold reconcileProject runHandlers reconcilers
  split_ifs
  · refine ⟨fun h => ⟨?_, ?_⟩, fun h => ⟨?_, ?_, ?_⟩⟩
    · exact hnamespaces' ▸ h.namespaces
    · exact hdone ▸ hqueues' ▸ h.queues
    · exact hnamespaces'.symm ▸ h.1
    · exact hqueues'.symm ▸ hdone.symm ▸ h.2
    · exact hlimitRanges ▸ hspares
  · refine ⟨fun h => ⟨h.namespaces, hdone ▸ h.queues⟩, fun h => ⟨h.1, hdone.symm ▸ h.2, ?_⟩⟩
    exact hlimitRanges.symm ▸ .refl

theorem reconcileProject_errs (h : (reconcileProject cfg env project c).1 = []) :
    (handleNamespace cfg env project c).1 = [] ∧
      (QueueResourceHandler.handleResourceInner cfg.toConfig env.queues project.toProject c.queues).1 = [] := by
  have hqueues := (handleNamespace_rest cfg env c project).1
  unfold reconcileProject runHandlers reconcilers at h
  split_ifs at h <;> simp [handleQueues, hqueues] at h
  · exact ⟨h.1, h.2.1⟩
  · exact h

theorem reconcileProject_untouched (henv : Undisturbed cfg.toConfig env.queues)
    (hfar : (Run.reconcileProject project).OutOfReach cfg c) :
    Untouched cfg.toConfig c (reconcileProject cfg env project c).2 := by
  refine reconcileProject_untouched_iff.2 ⟨?_, projectQueues_spares henv hfar.2⟩
  unfold handleNamespace
  split
  · exact .refl
  · rename_i namespaces hhandled
    exact NamespaceResourceHandler.handleResourceInner_spares hfar.1 hhandled

theorem handleNamespace_spares_iff (h : (handleNamespace cfg env project c).1 = []) :
    c.namespaces.Spares (OverriddenNamespace cfg.toConfig) (handleNamespace cfg env project c).2.namespaces ↔
      NamespaceResourceHandler.NamedSettled cfg project c.namespaces := by
  unfold handleNamespace at h ⊢
  split at h
  · cases h
  · rename_i namespaces hhandled
    exact NamespaceResourceHandler.handleResourceInner_spares_iff hhandled

theorem deleteLimitRange_spares (h : LimitRangeDeletionHandler.Disowned cfg env project c) :
    c.limitRanges.Spares (OverriddenLimitRange cfg.toConfig) (deleteLimitRange cfg env project c).2.limitRanges := by
  unfold deleteLimitRange
  split
  · exact .refl
  · rename_i limitRanges hhandled
    exact (LimitRangeDeletionHandler.onDelete_spares_iff hhandled).2 h

variable (cfg env c project) in
theorem deleteLimitRange_rest : (deleteLimitRange cfg env project c).2.namespaces = c.namespaces ∧
    (deleteLimitRange cfg env project c).2.queues = c.queues := by
  unfold deleteLimitRange
  split <;> exact ⟨rfl, rfl⟩

theorem finalize_untouched (rand : Nat → Nat → Nat → String) (henv : Undisturbed cfg.toConfig env.queues)
    (hclear : (Run.finalizeProject project).Clear cfg env rand c) :
    Untouched cfg.toConfig c (finalize cfg env project c).2 := by
  have hqueues : c.queues.Spares (OverriddenQueue cfg.toConfig) (deleteQueues cfg env project c).2.queues :=
    deletedQueues_spares henv project.toProject
  unfold finalize
  split_ifs with hfinalizer hoverridden
  · exact .refl
  · unfold finalizeProject
    split_ifs with hblocked
    · exact .refl
    · unfold runHandlers deletionHandlers
      split_ifs with hlimits
      · obtain ⟨hnamespaces, hsame⟩ := deleteLimitRange_rest cfg env (deleteQueues cfg env project c).2 project
        have hdisowned := hclear hfinalizer (by simpa using hoverridden) (by simpa using hblocked) hlimits
        refine ⟨hnamespaces.symm ▸ .refl, hsame.symm ▸ hqueues, ?_⟩
        exact deleteLimitRange_spares (c := (deleteQueues cfg env project c).2) hdisowned
      · exact ⟨.refl, hqueues, .refl⟩
  · exact .refl

theorem finalize_clear {rand : Nat → Nat → Nat → String} (hok : (finalize cfg env project c).1 = [])
    (huntouched : Untouched cfg.toConfig c (finalize cfg env project c).2) :
    (Run.finalizeProject project).Clear cfg env rand c := by
  intro hfinalizer hoverridden hblocked hlimits
  have hrun : finalize cfg env project c = runHandlers (deletionHandlers cfg env project) c := by
    simp [finalize, finalizeProject, hfinalizer, hoverridden, hblocked]
  rw [hrun, deletionHandlers, if_pos hlimits] at hok huntouched
  have hlimitRanges := huntouched.limitRanges
  simp only [runHandlers, List.foldl_cons, List.foldl_nil, List.nil_append, List.append_eq_nil_iff, deleteLimitRange]
    at hok hlimitRanges
  split at hlimitRanges
  · rename_i e hdeleted
    simp [hdeleted] at hok
  · rename_i limitRanges hdeleted
    exact (LimitRangeDeletionHandler.onDelete_spares_iff hdeleted).1 hlimitRanges

end

theorem undisturbed_fresh (cfg : Config) (departments : DepartmentStore) (rand : Nat → Nat → Nat → String)
    (server : Nat → Server) : Undisturbed cfg (.fresh departments rand server) where
  current := current_fresh departments rand server
  selected := by
    intro i s sel listed hlist q hq
    obtain rfl := Except.ok.inj hlist
    exact (List.mem_filter.1 hq).2
  spared := fun _ _ => .refl

/-- Objects with the label stay when no untested write reaches them. -/
theorem manual_override_honoured_iff (cfg : ControllerConfig) (env : Surroundings) (c : Cluster) (execution : Run) :
    (Undisturbed cfg.toConfig env.queues → execution.OutOfReach cfg c →
      Untouched cfg.toConfig c (execution.exec cfg env c).2) ∧
    ∀ departments rand server, env.queues = .fresh departments rand server → execution.Regular cfg rand c →
      (execution.exec cfg env c).1 = [] →
      (Untouched cfg.toConfig c (execution.exec cfg env c).2 ↔ execution.Clear cfg env rand c) := by
  refine ⟨fun henv hfar => ?_, fun departments rand server hfresh hregular hok => ?_⟩
  · cases execution with
    | reconcileProject project => exact reconcileProject_untouched henv hfar
    | finalizeProject project =>
      refine finalize_untouched (fun _ _ _ => "") henv fun _ _ _ _ _ limitRange _ _ hget hoverridden => ?_
      exact hfar limitRange (Store.get_mem hget) hoverridden
    | reconcileDepartment department => exact ⟨.refl, departmentQueues_spares henv hfar.1 hfar.2, .refl⟩
  · cases execution with
    | reconcileProject project =>
      obtain ⟨hnamespace, hqueues⟩ := reconcileProject_errs hok
      rw [hfresh] at hqueues
      have hiff := projectQueues_spares_iff ⟨_, _, rand, _, _, _, hregular.1, hregular.2, hqueues⟩
      rw [QueueResourceHandler.ProjectRun.run_final, ← hfresh] at hiff
      exact reconcileProject_untouched_iff.trans (and_congr (handleNamespace_spares_iff hnamespace) hiff)
    | finalizeProject project =>
      have henv : Undisturbed cfg.toConfig env.queues := hfresh ▸ undisturbed_fresh _ departments rand server
      exact ⟨finalize_clear hok, finalize_untouched rand henv⟩
    | reconcileDepartment department =>
      have hqueues : (DepartmentHandler.handle cfg.toConfig env.queues department c.queues).2.1 = [] := hok
      rw [hfresh] at hqueues
      have hiff := departmentQueues_spares_iff ⟨_, _, rand, _, _, _, hregular.1, hregular.2, hqueues⟩
      rw [DepartmentHandler.DepartmentRun.run_final, ← hfresh] at hiff
      exact ⟨fun h => hiff.1 h.queues, fun h => ⟨.refl, hiff.2 h, .refl⟩⟩

/-! ## A project, a department and objects with the label -/

namespace Sample

def overriding : Labels := (∅ : Labels).insert "kai.resources/resource-manual-override" "true"

def project : ProjectObject where
  name := "p"
  uid := "u1"
  parent := ""
  queues := [⟨"", "default", none, none⟩]
  labels := ∅
  finalizers := ["kai.resources.finalizers.project"]
  namespaceName := ""
  enforceKaiScheduler := true
  blockingDeletion := false
  statusNamespace := "kai-p"

def department : Department := ⟨"d", "u2", "", [⟨"", "default", none, none⟩]⟩

def namespaceNamed (name : String) : NamespaceObject := ⟨⟨name, overriding⟩, "Namespace", "v1", "u3", [], ∅, [], 1⟩

def queueOf (kind owner uid labelKey name : String) : Queue where
  name := name
  labels := overriding.insert labelKey owner
  ownerReferences := [ownerReference kind owner uid]
  spec := populateQueueSpec none name "" none
  resourceVersion := 1

/-- The spec of the project has no entry for its node pool. -/
def droppedQueue : Queue :=
  { queueOf projectKind "p" "u1" "project" "p-gpu" with
    labels := (overriding.insert "project" "p").insert "kai.scheduler/node-pool" "gpu" }

def departmentQueue : Queue := queueOf departmentKind "d" "u2" "kai.resources/department-name" "d"

def limitRange : LimitRange :=
  ⟨"kai-p", "kai-limit-range", overriding, [ownerReference projectKind "p" "u1"], [], 1⟩

def world : Cluster :=
  ⟨.single (namespaceNamed "kai-p"), .single (queueOf projectKind "p" "u1" "project" "p"), .single limitRange⟩

def surroundings : Surroundings where
  fault := fun _ => none
  version := 7
  defaultLimits := some ∅
  parseQuantity := fun _ => none
  blocked := []
  queues := .fresh .empty (fun _ _ _ => "aaaa") fun i => .willing (i + 2)

end Sample

open Sample in
theorem overridden_objects_untouched :
    (∃ limitRange ∈ world.limitRanges.items, OverriddenLimitRange (ControllerConfig.default false).toConfig limitRange) ∧
    Untouched (ControllerConfig.default false).toConfig world
      ((Run.reconcileProject project).exec (.default false) surroundings world).2 := by
  -- The default namespace, the queue of the entry and the limit range are all overridden, and none is in the way.
  refine ⟨⟨limitRange, .head _, by unfold OverriddenLimitRange; decide⟩, ?_⟩
  refine ((manual_override_honoured_iff (.default false) surroundings world (.reconcileProject project)).2 .empty
    (fun _ _ _ => "aaaa") (fun i => .willing (i + 2)) rfl ⟨by decide, .of_zipIdx (by decide)⟩ (by decide)).2 ⟨?_, ?_⟩
  · intro _ hnamed
    exact absurd rfl hnamed
  · intro q hq _ _ _
    simp only [world, Store.single, List.mem_singleton] at hq
    subst hq
    exact ⟨0, by decide, by decide⟩

open Sample in
theorem overridden_objects_touched :
    ¬ Untouched (ControllerConfig.default false).toConfig ⟨.single (namespaceNamed "team"), .empty, .empty⟩
      ((Run.reconcileProject { project with namespaceName := "team" }).exec (.default false) surroundings
        ⟨.single (namespaceNamed "team"), .empty, .empty⟩).2 ∧
    ¬ Untouched (ControllerConfig.default false).toConfig ⟨.empty, .single droppedQueue, .empty⟩
      ((Run.reconcileProject project).exec (.default false) surroundings ⟨.empty, .single droppedQueue, .empty⟩).2 ∧
    ¬ Untouched (ControllerConfig.default false).toConfig ⟨.empty, .single departmentQueue, .empty⟩
      ((Run.reconcileDepartment department).exec (.default false) surroundings
        ⟨.empty, .single departmentQueue, .empty⟩).2 ∧
    ¬ Untouched (ControllerConfig.default false).toConfig ⟨.empty, .empty, .single limitRange⟩
      ((Run.finalizeProject project).exec (.default false) surroundings ⟨.empty, .empty, .single limitRange⟩).2 := by
  -- A namespace that the user names is labelled, a queue that is no longer in the spec goes, a department's queue is
  -- written over, and a deleted project is removed from the owners of its limit range.
  refine ⟨fun h => ?_, fun h => ?_, fun h => ?_, fun h => ?_⟩
  · exact absurd (h.namespaces (namespaceNamed "team") (.head _) (by unfold OverriddenNamespace; decide)) (by decide)
  · exact absurd (h.queues droppedQueue (.head _) (by unfold OverriddenQueue; decide)) (by decide)
  · exact absurd (h.queues departmentQueue (.head _) (by unfold OverriddenQueue; decide)) (by decide)
  · exact absurd (h.limitRanges limitRange (.head _) (by unfold OverriddenLimitRange; decide)) (by decide)

end Krm.Projects
