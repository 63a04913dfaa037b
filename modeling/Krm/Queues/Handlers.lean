import Krm.Queues.Utils

/-! # The queue reconciles of a Project and of a Department -/

open Krm.Lib

namespace Krm.Queues

def ownerReference (kind name uid : String) : OwnerReference where
  apiVersion := groupVersion
  kind := kind
  name := name
  uid := uid
  controller := some true
  blockOwnerDeletion := some true

structure Progress where
  store : QueueStore
  errs : List ApiError
  reconciledQueues : List String
  heldAsRoot : Bool

def Progress.start (s : QueueStore) : Progress := ⟨s, [], [], false⟩

/-! ## Projects -/

namespace QueueResourceHandler

def queueLabels (cfg : Config) (project : Project) (nodepool : String) : Labels :=
  addNodePoolLabelIfNeeded cfg
    (((∅ : Labels).insert cfg.projectLabelKey project.name).insert cfg.projectIdLabelKey project.uid
      |>.insert cfg.queueDepartmentNameLabelKey project.parent) nodepool

def buildQueueFromSpec (cfg : Config) (v : View) (queueProjectSpec : QueueConfig) (project : Project) :
    Except ApiError Queue := do
  let parentQueueName ← departmentQueueName cfg v project.parent queueProjectSpec.nodepool
  let suggestedName := getQueueName cfg queueProjectSpec project.name
  .ok
    { name := suggestedName
      labels := queueLabels cfg project queueProjectSpec.nodepool
      ownerReferences := [ownerReference projectKind project.name project.uid]
      spec := populateQueueSpec queueProjectSpec.resources suggestedName parentQueueName queueProjectSpec.priority
      resourceVersion := 0 }

def getExistingQueueOfProject (cfg : Config) (v : View)
    (queueNameFromSpec projectName projectUID nodepoolName : String) : Except ApiError Queue :=
  getExistingQueueOfResource cfg v nodepoolName projectName "" queueNameFromSpec projectUID

def generateQueueNameOfProject (cfg : Config) (v : View) (queueNameFromSpec projectName projectUID : String) :
    String :=
  generateQueueNameForResource cfg v projectName "" queueNameFromSpec projectUID

def handleExisting (cfg : Config) (m : Moment) (expectedQueueObject existingQueue : Queue)
    (projectUID : String) : Except ApiError QueueStore :=
  if areQueuesEqual expectedQueueObject existingQueue then .ok m.store
  else if isManuallyOverridden cfg existingQueue then .ok m.store
  else updateExistingQueue cfg m.server expectedQueueObject existingQueue projectUID m.store

/-- The queue under its final name, which is also its display name. -/
def named (queueObject : Queue) (name : String) : Queue :=
  { queueObject with name := name, spec := { queueObject.spec with displayName := name } }

/-- The final name of the queue, and the store. -/
def reconcileQueueObject (cfg : Config) (m : Moment) (queueObject : Queue)
    (projectName projectUID nodepoolName : String) : Except ApiError (String × QueueStore) :=
  match getExistingQueueOfProject cfg m.view queueObject.name projectName projectUID nodepoolName with
  | .error e =>
    if e.isNotFound then
      let name := generateQueueNameOfProject cfg m.view queueObject.name projectName projectUID
      (createQueue m.server (named queueObject name) m.store).map (name, ·)
    else .error e
  | .ok existingQueue =>
    (handleExisting cfg m (named queueObject existingQueue.name) existingQueue projectUID).map
      (existingQueue.name, ·)

def reconcileEntry (cfg : Config) (m : Moment) (project : Project) (projectQueue : QueueConfig) :
    Except ApiError (String × QueueStore) := do
  let queueObject ← buildQueueFromSpec cfg m.view projectQueue project
  reconcileQueueObject cfg m queueObject project.name project.uid projectQueue.nodepool

def handleEntry (cfg : Config) (env : Environment) (project : Project) (acc : Progress)
    (projectQueue : QueueConfig × Nat) : Progress :=
  let m := env projectQueue.2 acc.store
  match reconcileEntry cfg m project projectQueue.1 with
  | .error e => { acc with store := m.store, errs := acc.errs ++ [e] }
  | .ok (name, s) => { acc with store := s, reconciledQueues := name :: acc.reconciledQueues }

def handleEntries (cfg : Config) (env : Environment) (project : Project) (s : QueueStore) : Progress :=
  project.queues.zipIdx.foldl (handleEntry cfg env project) (.start s)

/-- The errors met (none: nil) and the store. -/
def handleResourceInner (cfg : Config) (env : Environment) (project : Project) (s : QueueStore) :
    List ApiError × QueueStore :=
  let done := handleEntries cfg env project s
  if done.errs ≠ [] then (done.errs, done.store)
  else deleteUnnecessaryQueues cfg (env project.queues.length done.store) done.reconciledQueues project.uid
    cfg.projectLabelKey project.name projectKind

end QueueResourceHandler

/-! ## Departments -/

namespace DepartmentHandler

def buildQueueFromSpec (cfg : Config) (queueDepartmentSpec : QueueConfig) (department : Department)
    (parentQueueName : String) : Queue where
  name := getQueueName cfg queueDepartmentSpec department.name
  labels := addNodePoolLabelIfNeeded cfg
    ((∅ : Labels).insert cfg.queueDepartmentNameLabelKey department.name) queueDepartmentSpec.nodepool
  ownerReferences := [ownerReference departmentKind department.name department.uid]
  spec := populateQueueSpec queueDepartmentSpec.resources department.name parentQueueName
    queueDepartmentSpec.priority
  resourceVersion := 0

def getExistingQueueOfDepartment (cfg : Config) (v : View) (department : Department) (nodepoolName : String) :
    Except ApiError Queue := do
  let queues ← listQueuesForNodepool cfg v nodepoolName
  match queues.find? fun q => isOwnedByUID q.ownerReferences department.uid with
  | some queue => .ok queue
  | none => .error (.notFound (department.name ++ "/" ++ nodepoolName))

def generateQueueNameOfDepartment (cfg : Config) (v : View)
    (departmentName suggestedQueueName departmentUID : String) : String :=
  generateQueueNameForResource cfg v "" departmentName suggestedQueueName departmentUID

/-- The parent queue to write, and whether it was held back. -/
def holdAsRootOnLoop (v : View) (queue : Queue) (currentParentQueue : String) :
    Except ApiError (Bool × Queue) :=
  let parentQueue := queue.spec.parentQueue
  if parentQueue = "" ∨ parentQueue = currentParentQueue then .ok (false, queue)
  else do
    let loop ← wouldCloseQueueLoop v queue.name parentQueue
    if loop then .ok (true, { queue with spec := { queue.spec with parentQueue := "" } }) else .ok (false, queue)

def handleExisting (cfg : Config) (m : Moment) (expectedQueueObject existingQueue : Queue)
    (departmentUID : String) : Except ApiError QueueStore :=
  if areQueuesEqual expectedQueueObject existingQueue then .ok m.store
  else updateExistingQueue cfg m.server expectedQueueObject existingQueue departmentUID m.store

/-- Whether it is held as a root, its final name, and the store. -/
def reconcileQueueObject (cfg : Config) (m : Moment) (queueObject : Queue) (department : Department)
    (nodepoolName : String) : Except ApiError (Bool × String × QueueStore) :=
  match getExistingQueueOfDepartment cfg m.view department nodepoolName with
  | .error e =>
    if e.isNotFound then do
      let name := generateQueueNameOfDepartment cfg m.view department.name queueObject.name department.uid
      let (heldAsRoot, queue) ← holdAsRootOnLoop m.view { queueObject with name := name } ""
      let s ← createQueue m.server queue m.store
      .ok (heldAsRoot, name, s)
    else .error e
  | .ok existingQueue => do
    let (heldAsRoot, queue) ← holdAsRootOnLoop m.view { queueObject with name := existingQueue.name }
      existingQueue.spec.parentQueue
    let s ← handleExisting cfg m queue existingQueue department.uid
    .ok (heldAsRoot, existingQueue.name, s)

def reconcileEntry (cfg : Config) (m : Moment) (department : Department) (departmentQueue : QueueConfig) :
    Except ApiError (Bool × String × QueueStore) := do
  let parentQueueName ← departmentQueueName cfg m.view department.parent departmentQueue.nodepool
  reconcileQueueObject cfg m (buildQueueFromSpec cfg departmentQueue department parentQueueName) department
    departmentQueue.nodepool

def handleEntry (cfg : Config) (env : Environment) (department : Department) (acc : Progress)
    (departmentQueue : QueueConfig × Nat) : Progress :=
  let m := env departmentQueue.2 acc.store
  match reconcileEntry cfg m department departmentQueue.1 with
  | .error e => { acc with store := m.store, errs := acc.errs ++ [e] }
  | .ok (held, name, s) =>
    { store := s, errs := acc.errs, reconciledQueues := name :: acc.reconciledQueues,
      heldAsRoot := acc.heldAsRoot || held }

def handleEntries (cfg : Config) (env : Environment) (department : Department) (s : QueueStore) : Progress :=
  department.queues.zipIdx.foldl (handleEntry cfg env department) (.start s)

/-- Whether a queue is held as a root, the errors, and the store. -/
def handle (cfg : Config) (env : Environment) (department : Department) (s : QueueStore) :
    Bool × List ApiError × QueueStore :=
  let done := handleEntries cfg env department s
  if done.errs ≠ [] then (done.heldAsRoot, done.errs, done.store)
  else (done.heldAsRoot,
    deleteUnnecessaryQueues cfg (env department.queues.length done.store) done.reconciledQueues department.uid
      cfg.queueDepartmentNameLabelKey department.name departmentKind)

end DepartmentHandler

def holding (q : Queue) : QueueStore := .single q

/-- The random parts of the names that two entries get. -/
def suffix (i _ _ : Nat) : String := if i = 0 then "aaaa" else "bbbb"

end Krm.Queues
