import Krm.PodGroups.Assigner
import Krm.Queues.Foreign
import Krm.Queues.ProjectConverges

/-! # The queue that the assigner charges for a project

The project controller knows the queues of a project by the UID of their owner, the assigner by its kind. -/

open Krm.Lib

namespace Krm.PodGroups

/-- The two programs are configured alike, and external queues are allowed. -/
structure Agrees (acfg : PodGroupAssignerConfig) (cfg : Config) : Prop where
  projectLabelKey : acfg.projectLabelKey = cfg.projectLabelKey
  nodePoolLabelKey : acfg.nodePoolLabelKey = cfg.nodePoolLabelKey
  defaultNodepoolName : acfg.defaultNodepoolName = cfg.defaultNodepoolName
  allowExternalQueues : acfg.allowExternalQueues = true ∧ cfg.allowExternalQueues = true
  keys_valid : isLabelKey cfg.projectLabelKey ∧ isLabelKey cfg.nodePoolLabelKey

/-- What the assigner takes for the project's queue on the pool. -/
def chargeable (cfg : Config) (projectName n : String) (q : Queue) : Bool :=
  (decide (q.labels.lookup cfg.projectLabelKey = some projectName) && Queues.inPool cfg n q) &&
    (q.ownerReferences.any fun owner => owner.kind = projectKind || owner.kind = departmentKind)

/-- No chargeable queue is listed before it. -/
def ListedFirst (cfg : Config) (projectName n : String) (queues : List Queue) (q : Queue) : Prop :=
  ∃ before after, queues = before ++ q :: after ∧ ∀ q' ∈ before, chargeable cfg projectName n q' = false

variable {cfg : Config} {r : Requirement}

theorem ListedFirst.mem {projectName n : String} {queues : List Queue} {q : Queue}
    (h : ListedFirst cfg projectName n queues q) : q ∈ queues := by
  obtain ⟨before, after, rfl, -⟩ := h
  simp

/-! ## The search -/

theorem newRequirement_ok {key : String} {op : Operator} {values : List String}
    (h : newRequirement key op values = .ok r) : Queues.requirement key op values = .ok r := by
  unfold newRequirement Nodes.newRequirement at h
  unfold Queues.requirement
  cases hreq : Lib.newRequirement key op values with
  | none => simp [hreq] at h
  | some r' =>
    simp only [hreq] at h ⊢
    split_ifs at h
    cases h
    rfl

theorem newRequirement_of_requirement {key : String} {op : Operator} {values : List String} (hkey : isLabelKey key)
    (h : Queues.requirement key op values = .ok r) : newRequirement key op values = .ok r := by
  unfold Queues.requirement at h
  unfold newRequirement Nodes.newRequirement
  cases hreq : Lib.newRequirement key op values with
  | none => simp [hreq] at h
  | some r' =>
    simp only [hreq] at h
    cases h
    simp [hkey]

/-- The requirement on the node pool, in the controller's terms. -/
def newNodePoolRequirement (cfg : Config) (n : String) : Except RunError Requirement :=
  if n = cfg.defaultNodepoolName then newRequirement cfg.nodePoolLabelKey .doesNotExist []
  else newRequirement cfg.nodePoolLabelKey .doubleEquals [n]

theorem newNodePoolRequirement_ok {n : String} (h : newNodePoolRequirement cfg n = .ok r) :
    Queues.nodePoolRequirement cfg n = .ok r := by
  unfold newNodePoolRequirement at h
  unfold Queues.nodePoolRequirement
  split_ifs at h ⊢ <;> exact newRequirement_ok h

theorem newNodePoolRequirement_of_controller {n : String} (hkey : isLabelKey cfg.nodePoolLabelKey)
    (h : Queues.nodePoolRequirement cfg n = .ok r) : newNodePoolRequirement cfg n = .ok r := by
  unfold Queues.nodePoolRequirement at h
  unfold newNodePoolRequirement
  split_ifs at h ⊢ <;> exact newRequirement_of_requirement hkey h

section

variable {acfg : PodGroupAssignerConfig} {cfg : Config} (hagree : Agrees acfg cfg) {c : Cluster}
  {projectName n : String} {sel : Selector}

theorem owned_filter (h : Queues.createRequirementsForQueuesList cfg n projectName "" = .ok sel) :
    ownedByProjectOrDepartment (c.queues.filter fun queue => sel.Matches queue.labels) =
      c.queues.filter (chargeable cfg projectName n) := by
  rw [ownedByProjectOrDepartment, List.filter_filter]
  apply List.filter_congr
  intro q _
  rw [(Queues.QueueResourceHandler.createRequirements_ok h q).2, Bool.and_comm]
  rfl

include hagree

theorem createRequirements_eq (hempty : ¬ (projectName = "" ∨ n = "")) :
    createRequirementsForQueuesList acfg projectName n =
      newRequirement cfg.projectLabelKey .doubleEquals [projectName] >>= fun r =>
        newNodePoolRequirement cfg n >>= fun r' => .ok [r, r'] := by
  unfold createRequirementsForQueuesList newNodePoolRequirement
  rw [if_neg hempty, hagree.projectLabelKey, hagree.nodePoolLabelKey, hagree.defaultNodepoolName]
  split_ifs <;> rfl

theorem createRequirements_ok (h : createRequirementsForQueuesList acfg projectName n = .ok sel) :
    n ≠ "" ∧ Queues.createRequirementsForQueuesList cfg n projectName "" = .ok sel := by
  by_cases hempty : projectName = "" ∨ n = ""
  · simp [createRequirementsForQueuesList, hempty] at h
  rw [createRequirements_eq hagree hempty] at h
  rw [not_or] at hempty
  obtain ⟨r, hr, h⟩ := bind_ok h
  obtain ⟨r', hr', h⟩ := bind_ok h
  cases h
  refine ⟨hempty.2, ?_⟩
  simp [Queues.createRequirementsForQueuesList, Queues.addRequirement, hempty.1, newRequirement_ok hr,
    newNodePoolRequirement_ok hr', bind, Except.bind]

theorem createRequirements_of_controller (hn : n ≠ "")
    (h : Queues.createRequirementsForQueuesList cfg n projectName "" = .ok sel) :
    createRequirementsForQueuesList acfg projectName n = .ok sel := by
  obtain ⟨hp, r, r', hproj, hpool, rfl⟩ := Queues.QueueResourceHandler.createRequirements_parts h
  rw [createRequirements_eq hagree (by simp [hp, hn]), newRequirement_of_requirement hagree.keys_valid.1 hproj,
    newNodePoolRequirement_of_controller hagree.keys_valid.2 hpool]
  rfl

theorem getExistingQueueByLabels_ok_iff (h : createRequirementsForQueuesList acfg projectName n = .ok sel)
    (hcall : c.fault .queues = none) (q : Queue) :
    getExistingQueueByLabels acfg c projectName n = .ok q ↔
      chargeable cfg projectName n q ∧ ListedFirst cfg projectName n c.queues q := by
  have hfilter := owned_filter (c := c) (createRequirements_ok hagree h).2
  have hfind : getExistingQueueByLabels acfg c projectName n = .ok q ↔
      c.queues.find? (chargeable cfg projectName n) = some q := by
    rw [← List.head?_filter]
    unfold getExistingQueueByLabels
    simp only [h, bind, Except.bind, Cluster.attempt, hcall, hagree.allowExternalQueues.1, if_true, hfilter]
    cases c.queues.filter (chargeable cfg projectName n) with
    | nil => simp
    | cons q' rest => simp
  rw [hfind, List.find?_eq_some_iff_append]
  simp [ListedFirst]

theorem getQueueNameOfNodePool_ok_iff (h : createRequirementsForQueuesList acfg projectName n = .ok sel)
    (hcall : c.fault .queues = none) (name : String) :
    getQueueNameOfNodePool acfg c projectName n = .ok name ↔
      ∃ q, q.name = name ∧ chargeable cfg projectName n q ∧ ListedFirst cfg projectName n c.queues q := by
  simp only [← getExistingQueueByLabels_ok_iff hagree h hcall]
  unfold getQueueNameOfNodePool
  constructor
  · intro hname
    obtain ⟨q, hq, hname⟩ := bind_ok hname
    exact ⟨q, Except.ok.inj hname, hq⟩
  · rintro ⟨q, rfl, hq⟩
    rw [hq]
    rfl

end

/-! ## The queue that the reconcile maintains -/

open Queues Queues.QueueResourceHandler

section

variable (cfg : Config) (departments : DepartmentStore) (rand : Nat → Nat → Nat → String) (server : Nat → Server)
  (project : Project) (s₀ : QueueStore)

/-- The name that the `i`-th entry ends up with. -/
def maintainedName (i : Nat) (entry : QueueConfig) : Option String :=
  (reconcileEntry cfg (Environment.fresh departments rand server i
    (progressAt cfg departments rand server project s₀ i).store) project entry).toOption.map Prod.fst

variable {cfg departments rand server project s₀} {i : Nat} {entry : QueueConfig}

theorem reconcileEntry_selector {m : Moment} {r : String × QueueStore} (h : reconcileEntry cfg m project entry = .ok r) :
    ∃ sel, Queues.createRequirementsForQueuesList cfg entry.nodepool project.name "" = .ok sel := by
  obtain ⟨queueObject, -, h⟩ := bind_ok h
  have hlookup : ∀ e, getExistingQueueOfProject cfg m.view queueObject.name project.name project.uid entry.nodepool =
      .error e → e.isNotFound := by
    intro e he
    by_contra hnf
    simp [reconcileQueueObject, he, hnf] at h
  exact getExistingQueueOfProject_selector hlookup

theorem maintainedName_of_ok (hnil : (handleResourceInner cfg (.fresh departments rand server) project s₀).1 = [])
    (hi : project.queues[i]? = some entry) :
    ∃ name, maintainedName cfg departments rand server project s₀ i entry = some name ∧
      ∃ sel, Queues.createRequirementsForQueuesList cfg entry.nodepool project.name "" = .ok sel := by
  obtain ⟨name, hentry, -⟩ := Loop.reconciled_at (handleResourceInner_eq .. ▸ hnil) hi
  exact ⟨name, congrArg (fun result => result.toOption.map Prod.fst) hentry, reconcileEntry_selector hentry⟩

theorem chargeable_of_made {n : String} {q : Queue} (h : Made cfg project n q) : chargeable cfg project.name n q := by
  simp [chargeable, h.lookup_project, h.inPool, h.owners, ownerReference]

theorem maintained_own (r : ProjectRun) (hover : ∀ q ∈ r.before.items, isManuallyOverridden r.cfg q = false)
    (hi : r.project.queues[i]? = some entry) (hkeep : KeepsClaim r.cfg r.rand r.project r.before i) :
    ∃ own ∈ r.run.final.items,
      maintainedName r.cfg r.departments r.rand r.server r.project r.before i entry = some own.name ∧
      Made r.cfg r.project entry.nodepool own := by
  obtain ⟨c, hclaim, hlast⟩ := hkeep
  have hclaims : ∀ j, claimAt (plan r.cfg r.project r.rand r.before) r.project.queues j = r.run.claim j := fun j =>
    (r.claim_eq hover j).symm
  simp only [hclaims] at hclaim hlast
  obtain ⟨name, hentry, -⟩ := Loop.reconciled_at r.nil_loop hi
  obtain ⟨hname, -⟩ := r.turned (r.run.inv_at hi) hi hentry
  cases (r.run.claim_reconciled i c hclaim).symm.trans hname
  obtain ⟨own, hown, rfl⟩ := r.run.held_done hclaim
  exact ⟨own, (r.run.mem_final_of_claim hclaim).2 hown,
    congrArg (fun result => result.toOption.map Prod.fst) hentry, (r.own hi hown hclaim hlast).1⟩

end

section

variable {acfg : PodGroupAssignerConfig} {cfg : Config} (departments : DepartmentStore) (rand : Nat → Nat → Nat → String)
  (server : Nat → Server) (project : Project) {c : Cluster}

/-- The maintained queue is charged exactly when it is the first chargeable one. -/
theorem own_queue_charged_iff (hagree : Agrees acfg cfg) (hcall : c.fault .queues = none) :
    (∀ n s, c.queues.Perm (s : QueueStore).items →
      ((∀ q ∈ s.items, getQueueNameOfNodePool acfg c project.name n = .ok q.name →
          isOwnedByUID q.ownerReferences project.uid) ↔
        ∀ sel, createRequirementsForQueuesList acfg project.name n = .ok sel →
          ∀ q ∈ s.items, chargeable cfg project.name n q → ListedFirst cfg project.name n c.queues q →
            isOwnedByUID q.ownerReferences project.uid)) ∧
    ∀ s₀, (handleResourceInner cfg (.fresh departments rand server) project s₀).1 = [] →
      c.queues.Perm (handleResourceInner cfg (.fresh departments rand server) project s₀).2.items →
      ∀ i entry, project.queues[i]? = some entry →
        ∃ name, maintainedName cfg departments rand server project s₀ i entry = some name ∧
          (getQueueNameOfNodePool acfg c project.name entry.nodepool = .ok name ↔ entry.nodepool ≠ "" ∧
            ∃ own ∈ c.queues, own.name = name ∧ chargeable cfg project.name entry.nodepool own ∧
              ListedFirst cfg project.name entry.nodepool c.queues own) ∧
          ((project.queues.map QueueConfig.nodepool).Nodup →
            (∀ q ∈ s₀.items, isManuallyOverridden cfg q = false) →
            NoCollision cfg project.queues project.name rand s₀ → KeepsClaim cfg rand project s₀ i →
            ∃ own ∈ c.queues, own.name = name ∧ chargeable cfg project.name entry.nodepool own ∧
              isOwnedByUID own.ownerReferences project.uid) := by
  constructor
  · intro n s hperm
    constructor
    · intro hnever sel hsel q hq hcharge hfirst
      exact hnever q hq ((getQueueNameOfNodePool_ok_iff hagree hsel hcall _).2 ⟨q, rfl, hcharge, hfirst⟩)
    · intro howned q hq hname
      obtain ⟨found, hfound, -⟩ := bind_ok hname
      obtain ⟨sel, hsel, -⟩ := bind_ok hfound
      obtain ⟨q', hq', hcharge, hfirst⟩ := (getQueueNameOfNodePool_ok_iff hagree hsel hcall _).1 hname
      have hmem : q' ∈ s.items := hperm.mem_iff.1 hfirst.mem
      -- the names of a store are unique, so the queue of that name is the one found
      cases Store.eq_of_mem hmem hq hq'
      exact howned sel hsel q hmem hcharge hfirst
  · intro s₀ hnil hperm i entry hi
    obtain ⟨name, hname, sel, hsel⟩ := maintainedName_of_ok hnil hi
    refine ⟨name, hname, ?_, ?_⟩
    · constructor
      · intro hget
        obtain ⟨found, hfound, -⟩ := bind_ok hget
        obtain ⟨sel', hsel', -⟩ := bind_ok hfound
        obtain ⟨own, hown, hcharge, hfirst⟩ := (getQueueNameOfNodePool_ok_iff hagree hsel' hcall _).1 hget
        exact ⟨(createRequirements_ok hagree hsel').1, own, hfirst.mem, hown, hcharge, hfirst⟩
      · rintro ⟨hn, own, -, hown⟩
        have hsel' := createRequirements_of_controller hagree hn hsel
        exact (getQueueNameOfNodePool_ok_iff hagree hsel' hcall _).2 ⟨own, hown⟩
    · intro hpools hover hrand hkeep
      obtain ⟨own, hown, hname', hmade⟩ := maintained_own ⟨_, _, rand, _, _, _, hpools, hrand, hnil⟩ hover hi hkeep
      rw [ProjectRun.run_final] at hown
      rw [hname, Option.some.injEq] at hname'
      exact ⟨own, hperm.mem_iff.2 hown, hname'.symm, chargeable_of_made hmade, hmade.ownedByUID⟩

end

/-! ## A project whose queue is charged and one whose queue is not -/

namespace Sample

def reconciled (s : QueueStore) : List ApiError × QueueStore :=
  handleResourceInner (.default true) (.fresh .empty (fun _ _ _ => "aaaa") fun i => .willing (i + 2)) claimant s

def listing (queues : List Queue) : Cluster := ⟨.empty, ["p"], .empty, .empty, queues, [], fun _ => none⟩

theorem agrees_default : Agrees (.default true) (.default true) where
  projectLabelKey := rfl
  nodePoolLabelKey := rfl
  defaultNodepoolName := rfl
  allowExternalQueues := ⟨rfl, rfl⟩
  keys_valid := by decide

end Sample

open Sample in
theorem first_queue_charged :
    ∃ name, maintainedName (.default true) .empty (fun _ _ _ => "aaaa") (fun i => .willing (i + 2)) claimant
        (.single lookalike) 0 ⟨"", "default", none, none⟩ = some name ∧
      lookalike ∈ (reconciled (.single lookalike)).2.items ∧
      getQueueNameOfNodePool (.default true) (listing (reconciled (.single lookalike)).2.items.reverse) "p" "default" =
        .ok name := by
  -- The queue that the reconcile created is listed before the look-alike.
  obtain ⟨-, hreconciled⟩ := own_queue_charged_iff .empty (fun _ _ _ => "aaaa") (fun i => .willing (i + 2)) claimant
    (c := listing (reconciled (.single lookalike)).2.items.reverse) agrees_default rfl
  obtain ⟨name, hname, hiff, -⟩ := hreconciled (.single lookalike) (by decide) (List.reverse_perm _) 0 _ rfl
  refine ⟨name, hname, by decide, hiff.2 ⟨by decide, ?_⟩⟩
  have hp : name = "p-aaaa" := Option.some.inj (hname.symm.trans (by decide))
  subst hp
  exact ⟨_, List.mem_cons_self, rfl, by decide, [], [lookalike], rfl, by simp⟩

open Sample in
/-- The assigner charges the queue of an earlier project of the same name. -/
theorem lookalike_charged :
    Agrees (.default true) (.default true) ∧ (reconciled (.single lookalike)).1 = [] ∧
    maintainedName (.default true) .empty (fun _ _ _ => "aaaa") (fun i => .willing (i + 2)) claimant (.single lookalike) 0
      ⟨"", "default", none, none⟩ = some "p-aaaa" ∧
    getQueueNameOfNodePool (.default true) (listing (reconciled (.single lookalike)).2.items) "p" "default" =
      .ok lookalike.name ∧
    lookalike ∈ (reconciled (.single lookalike)).2.items ∧
    isOwnedByUID lookalike.ownerReferences claimant.uid = false :=
  ⟨agrees_default, by decide, by decide, by decide, by decide, by decide⟩

end Krm.PodGroups
