import Krm.Lib.MergePatch
import Krm.Lib.SharedSum
import Krm.Objects

/-! # The status of a project -/

open Krm.Lib

namespace Krm.Status

/-! ## Objects -/

/-- In its smallest unit. One beyond a scaled int64, such as 100Ti, is an `inf.Dec` behind a pointer. -/
abbrev Quantity := Number

abbrev ResourceList := Finmap (fun _ : String => Quantity)

/-- A total copied from a boxed quantity shares its decimal. -/
abbrev Totals := Finmap (fun _ : String => Accumulator)

inductive ConditionStatus where
  | true
  | false
  | unknown
deriving DecidableEq, Repr

structure Condition where
  type : String
  status : ConditionStatus
  reason : String
  message : String
deriving DecidableEq, Repr

structure QueueStatus where
  conditions : List Condition
  childQueues : List String
  requested : ResourceList
  allocated : ResourceList
  allocatedNonPreemptible : ResourceList
deriving DecidableEq

structure StatusQueue extends Queue where
  status : QueueStatus
deriving DecidableEq

structure QuotaStatus where
  nodePoolName : String
  queueStatus : QueueStatus
deriving DecidableEq

structure ProjectQuotaStatus where
  allocated : Totals
  allocatedNonPreemptible : Totals
  requested : Totals
deriving DecidableEq

inductive ProjectPhase where
  | unset
  | ready
  | notReady
  | deleting
deriving DecidableEq, Repr

structure ProjectStatus where
  namespaceName : String
  phase : ProjectPhase
  message : String
  conditions : List Condition
  /-- None is the nil slice, which is not written like an empty one. -/
  nodePoolsQuotaStatuses : Option (List QuotaStatus)
  quotaStatus : ProjectQuotaStatus
deriving DecidableEq

/-- What a merge patch of a status replaces as a whole. -/
inductive Leaf where
  | text (s : String)
  | phase (p : ProjectPhase)
  | conditions (l : List Condition)
  | quotaStatuses (l : List QuotaStatus)
  | quantity (q : Int)
deriving DecidableEq

structure StatusConfig extends Config where
  namespaceProjectLabelKey : String

/-- What the status handler reads, and the project as it is stored. -/
structure Cluster where
  queues : List StatusQueue
  namespaces : List Namespace
  stored : Json Leaf

inductive Call where
  | namespaces
  | queues
  | patch
deriving DecidableEq, Repr

abbrev Faults := Call → Option String

/-! ## Figures -/

/-- The three lists of amounts that a queue reports. -/
inductive Figure where
  | allocated
  | allocatedNonPreemptible
  | requested
deriving DecidableEq, Repr

namespace Figure

def name : Figure → String
  | allocated => "allocated"
  | allocatedNonPreemptible => "allocatedNonPreemptible"
  | requested => "requested"

def ofQueue : Figure → QueueStatus → ResourceList
  | allocated => QueueStatus.allocated
  | allocatedNonPreemptible => QueueStatus.allocatedNonPreemptible
  | requested => QueueStatus.requested

def update (f : ResourceList → ResourceList) (status : QueueStatus) : Figure → QueueStatus
  | allocated => { status with allocated := f status.allocated }
  | allocatedNonPreemptible => { status with allocatedNonPreemptible := f status.allocatedNonPreemptible }
  | requested => { status with requested := f status.requested }

def ofProject : Figure → ProjectQuotaStatus → Totals
  | allocated => ProjectQuotaStatus.allocated
  | allocatedNonPreemptible => ProjectQuotaStatus.allocatedNonPreemptible
  | requested => ProjectQuotaStatus.requested

def set (totals : Totals) (status : ProjectQuotaStatus) : Figure → ProjectQuotaStatus
  | allocated => { status with allocated := totals }
  | allocatedNonPreemptible => { status with allocatedNonPreemptible := totals }
  | requested => { status with requested := totals }

end Figure

/-- What the entries report for one resource. -/
def column (figure : Figure) (resource : String) (entries : List QuotaStatus) : List (Option Quantity) :=
  entries.map fun entry => (figure.ofQueue entry.queueStatus).lookup resource

/-! ## Totals -/

def addAt (resourceName : String) (amount : Int) (rl : ResourceList) : ResourceList :=
  match rl.lookup resourceName with
  | some quantity => rl.insert resourceName (quantity.add amount)
  | none => rl

/-- An entry's decimal is written through a total's pointer. -/
def writeThrough (figure : Figure) (resourceName : String) (amount : Int) (entry : QuotaStatus) : QuotaStatus :=
  { entry with queueStatus := figure.update (addAt resourceName amount) entry.queueStatus }

/-- The first quantity is stored with its pointer, and the later ones are added into it. -/
def addQuantity (figure : Figure) (place : Nat) (s : List QuotaStatus × Totals) (resourceName : String)
    (quantityToAdd : Quantity) : List QuotaStatus × Totals :=
  match s.2.lookup resourceName with
  | some (.own existingValue) => (s.1, s.2.insert resourceName (.own (existingValue + quantityToAdd.amount)))
  | some (.shared owner) =>
    (s.1.modify owner (writeThrough figure resourceName quantityToAdd.amount), s.2.insert resourceName (.shared owner))
  | none => (s.1, s.2.insert resourceName (.copy place quantityToAdd))

theorem lookup_addAt (resourceName : String) (amount : Int) (rl : ResourceList) (name : String) :
    (addAt resourceName amount rl).lookup name =
      if name = resourceName then (rl.lookup name).map (·.add amount) else rl.lookup name := by
  unfold addAt
  split_ifs with hname
  · subst hname
    split
    · rename_i hfound
      rw [Finmap.lookup_insert, hfound, Option.map_some]
    · rename_i hmissing
      rw [hmissing, Option.map_none]
  · split
    · rw [Finmap.lookup_insert_of_ne _ hname]
    · rfl

variable {a b : String} (figure : Figure)

theorem writeThrough_comm (h : a ≠ b) (p q : Int) (entry : QuotaStatus) :
    writeThrough figure a p (writeThrough figure b q entry) = writeThrough figure b q (writeThrough figure a p entry) := by
  have hcomm : ∀ rl, addAt a p (addAt b q rl) = addAt b q (addAt a p rl) := by
    intro rl
    apply Finmap.ext_lookup
    intro name
    simp only [lookup_addAt]
    split_ifs with ha hb
    · exact absurd (ha.symm.trans hb) h
    · rfl
    · rfl
    · rfl
  cases figure <;> simp only [writeThrough, Figure.update, hcomm]

theorem modify_writeThrough_comm (h : a ≠ b) (p q : Int) (i j : Nat) (entries : List QuotaStatus) :
    (entries.modify i (writeThrough figure a p)).modify j (writeThrough figure b q) =
      (entries.modify j (writeThrough figure b q)).modify i (writeThrough figure a p) := by
  by_cases hij : i = j
  · subst hij
    rw [List.modify_modify_eq, List.modify_modify_eq]
    exact congrArg _ (funext fun entry => writeThrough_comm figure h.symm q p entry)
  · exact List.modify_modify_ne _ _ _ hij

theorem addQuantity_comm (place : Nat) (s : List QuotaStatus × Totals) (h : a ≠ b) (p q : Quantity) :
    addQuantity figure place (addQuantity figure place s a p) b q =
      addQuantity figure place (addQuantity figure place s b q) a p := by
  have hinsert : ∀ x y, (s.2.insert a x).insert b y = (s.2.insert b y).insert a x := fun x y =>
    Finmap.insert_insert_of_ne _ h
  rcases ha : s.2.lookup a with _ | _ | i <;> rcases hb : s.2.lookup b with _ | _ | j <;>
    simp only [addQuantity, ha, hb, Finmap.lookup_insert_of_ne _ h, Finmap.lookup_insert_of_ne _ h.symm, hinsert,
      modify_writeThrough_comm figure h]

/-- The order in which a Go map is walked makes no difference. -/
theorem foldl_addQuantity_perm (place : Nat) (s : List QuotaStatus × Totals) (l l' : AList fun _ : String => Quantity)
    (h : l.entries.Perm l'.entries) :
    l.entries.foldl (fun s entry => addQuantity figure place s entry.1 entry.2) s =
      l'.entries.foldl (fun s entry => addQuantity figure place s entry.1 entry.2) s := by
  refine h.foldl_eq' (fun x hx y hy s => ?_) s
  by_cases hxy : x = y
  · rw [hxy]
  · exact addQuantity_comm figure place s (fun hname => hxy (l.nodupKeys.eq_of_fst_eq hx hy hname)) x.2 y.2

def addResourceList (figure : Figure) (place : Nat) (result : List QuotaStatus × Totals)
    (resourceListToAdd : ResourceList) : List QuotaStatus × Totals :=
  resourceListToAdd.liftOn
    (fun l => l.entries.foldl (fun s entry => addQuantity figure place s entry.1 entry.2) result)
    (foldl_addQuantity_perm figure place result)

/-- The entries are shared with the totals, so they are returned too. -/
def addFigure (place : Nat) (s : List QuotaStatus × ProjectQuotaStatus) (figure : Figure) :
    List QuotaStatus × ProjectQuotaStatus :=
  match s.1[place]? with
  | some nodePoolQuotaStatus =>
    let (entries, totals) := addResourceList figure place (s.1, figure.ofProject s.2)
      (figure.ofQueue nodePoolQuotaStatus.queueStatus)
    (entries, figure.set totals s.2)
  | none => s

def addEntry (s : List QuotaStatus × ProjectQuotaStatus) (place : Nat) : List QuotaStatus × ProjectQuotaStatus :=
  [.allocated, .allocatedNonPreemptible, .requested].foldl (addFigure place) s

def sumNodePoolsQuotaStatusesToProjectQuotaStatus (projectStatus : ProjectStatus) : ProjectStatus :=
  match projectStatus.nodePoolsQuotaStatuses with
  | some entries =>
    let (entries, projectQuotaStatus) := (List.range entries.length).foldl addEntry (entries, ⟨∅, ∅, ∅⟩)
    { projectStatus with nodePoolsQuotaStatuses := some entries, quotaStatus := projectQuotaStatus }
  | none => { projectStatus with quotaStatus := ⟨∅, ∅, ∅⟩ }

/-! ## The patch -/

def sliceForPatch {α : Type} (slice : Option (List α)) : List α := slice.getD []

/-- An empty list is sent as `null`. A total is read where it is held. -/
def resourceListForPatch (entries : List QuotaStatus) (figure : Figure) (rl : Totals) : Json Leaf :=
  if rl = ∅ then .null
  else .object rl.keys fun name =>
    .leaf (.quantity (((rl.lookup name).map (Accumulator.value (column figure name entries))).getD 0))

def updateProjectStatusPatchBytes (projectStatus : ProjectStatus) : Json Leaf :=
  let entries := sliceForPatch projectStatus.nodePoolsQuotaStatuses
  let quotaStatus := .ofFields
    [("allocated", resourceListForPatch entries .allocated projectStatus.quotaStatus.allocated),
      ("allocatedNonPreemptible",
        resourceListForPatch entries .allocatedNonPreemptible projectStatus.quotaStatus.allocatedNonPreemptible),
      ("requested", resourceListForPatch entries .requested projectStatus.quotaStatus.requested)]
  let status := .ofFields
    [("namespace", .leaf (.text projectStatus.namespaceName)),
      ("phase", .leaf (.phase projectStatus.phase)),
      ("message", .leaf (.text projectStatus.message)),
      ("conditions", .leaf (.conditions projectStatus.conditions)),
      ("nodePoolsQuotaStatuses", .leaf (.quotaStatuses entries)),
      ("quotaStatus", quotaStatus)]
  .ofFields [("status", status)]

section

variable (cfg : StatusConfig) (fault : Faults)

/-- The errors, and the project as it is stored after. -/
def updateStatus (stored : Json Leaf) (status : ProjectStatus) : List String × Json Leaf :=
  let patch := updateProjectStatusPatchBytes (sumNodePoolsQuotaStatusesToProjectQuotaStatus status)
  match fault .patch with
  | some message => ([message], stored)
  | none => ([], stored.mergePatch patch)

def isUpdateNeeded (status projectStatusCopy : ProjectStatus) (conditionsChanged : Bool) : Bool :=
  conditionsChanged || status.namespaceName ≠ projectStatusCopy.namespaceName ||
    status.phase ≠ projectStatusCopy.phase || status.message ≠ projectStatusCopy.message ||
    status.nodePoolsQuotaStatuses ≠ projectStatusCopy.nodePoolsQuotaStatuses

def updateProjectStatusIfNeeded (stored : Json Leaf) (status projectStatusCopy : ProjectStatus)
    (conditionsChanged : Bool) : List String × Json Leaf :=
  if isUpdateNeeded status projectStatusCopy conditionsChanged then updateStatus fault stored status else ([], stored)

/-! ## The status in memory -/

def projectToNamespace (namespaces : List Namespace) (project : String) : Except String String :=
  match fault .namespaces with
  | some message => .error message
  | none =>
    match namespaces.filter fun n => n.labels.lookup cfg.namespaceProjectLabelKey = some project with
    | [] => .error ("no namespace found to have " ++ cfg.namespaceProjectLabelKey ++
        " label with the name of the project")
    | [n] => .ok n.name
    | n :: m :: _ => .error ("multiple namespaces found to have " ++ cfg.namespaceProjectLabelKey ++
        " label with the name of the project (" ++ n.name ++ ", " ++ m.name ++ ", ...)")

def kaiProjectToNamespace (namespaces : List Namespace) (project : String) (status : ProjectStatus) :
    Except String String :=
  if status.namespaceName ≠ "" then .ok status.namespaceName else projectToNamespace cfg fault namespaces project

def setNamespace (namespaces : List Namespace) (project : String) (status : ProjectStatus) :
    List String × ProjectStatus :=
  match kaiProjectToNamespace cfg fault namespaces project status with
  | .error message => ([message], status)
  | .ok namespaceName => ([], { status with namespaceName := namespaceName })

def setPhase (status : ProjectStatus) (conditionsChanged onDeletion : Bool) : ProjectStatus :=
  if !conditionsChanged then status
  else
    let failed := status.conditions.filter fun condition => condition.status = .false
    { status with
      phase := if failed.isEmpty then .ready else if onDeletion then .deleting else .notReady
      message := ", ".intercalate (failed.map Condition.reason) }

def getObjectNodePoolFromLabels (labels : Labels) : String :=
  (labels.lookup cfg.nodePoolLabelKey).getD cfg.defaultNodepoolName

def listProjectQueues (queues : List StatusQueue) (projectName : String) : List StatusQueue :=
  queues.filter fun queue => queue.labels.lookup cfg.projectLabelKey = some projectName

/-- The statuses in memory stay when the queues cannot be listed. -/
def setQuotaStatuses (queues : List StatusQueue) (projectName : String) (status : ProjectStatus) :
    List String × ProjectStatus :=
  match fault .queues with
  | some message => ([message], status)
  | none =>
    ([], { status with
      nodePoolsQuotaStatuses := some <| (listProjectQueues cfg queues projectName).map fun queue =>
        ⟨getObjectNodePoolFromLabels cfg queue.labels, queue.status⟩ })

def getProjectStatus (c : Cluster) (project : String) (status : ProjectStatus) (conditionsChanged : Bool) :
    List String × ProjectStatus :=
  let (errs, status) := setNamespace cfg fault c.namespaces project status
  let status := setPhase status conditionsChanged false
  let (innerErrs, status) := setQuotaStatuses cfg fault c.queues project status
  (errs ++ innerErrs, status)

/-! ## Reconciles -/

/-- The status may be partly new after errors, and is written all the same. -/
def reconcileStatus (c : Cluster) (project : String) (status : ProjectStatus) (conditionsChanged : Bool) :
    List String × Json Leaf :=
  let (errs, next) := getProjectStatus cfg fault c project status conditionsChanged
  let (innerErrs, stored) := updateProjectStatusIfNeeded fault c.stored next status conditionsChanged
  (errs ++ innerErrs, stored)

def reconcileStatusOnDeletion (c : Cluster) (status : ProjectStatus) (conditionsChanged : Bool) :
    List String × Json Leaf :=
  updateProjectStatusIfNeeded fault c.stored (setPhase status conditionsChanged true) status conditionsChanged

end

end Krm.Status
