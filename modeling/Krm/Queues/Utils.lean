import Krm.Queues.Client

/-! # Names, lookups and writes that projects and departments share -/

open Krm.Lib

namespace Krm.Queues

def queueNameRandSuffixLen : Nat := 4
def maxNameLen : Nat := 58
def queueNameRandSuffixLongLen : Nat := 20
def maxNameLenWithLongSuffix : Nat := 42
def generateQueueNameTries : Nat := 10
def defaultQueuePriority : Int := 100

/-! ## The queue built from a spec entry -/

def getQueueName (cfg : Config) (queue : QueueConfig) (ownerName : String) : String :=
  if queue.name ≠ "" then queue.name
  else if queue.nodepool = cfg.defaultNodepoolName then ownerName
  else ownerName ++ "-" ++ queue.nodepool

def queueResource (r : QueueResourceConfig) : QueueResource := ⟨r.deserved, r.overQuotaWeight, r.limit⟩

def populateQueueSpec (resources : Option QueueResourcesConfig) (displayName parentQueue : String)
    (priority : Option Int) : QueueSpec :=
  let resources := resources.getD .zero
  { displayName := displayName
    parentQueue := parentQueue
    resources := some ⟨queueResource resources.gpu, queueResource resources.cpu, queueResource resources.memory⟩
    priority := some (priority.getD defaultQueuePriority) }

def addNodePoolLabelIfNeeded (cfg : Config) (labels : Labels) (nodepoolName : String) : Labels :=
  if nodepoolName ≠ cfg.defaultNodepoolName then labels.insert cfg.nodePoolLabelKey nodepoolName else labels

/-! ## Ownership -/

def isOwnedByUID (ownerRefs : List OwnerReference) (ownerUID : String) : Bool :=
  ownerRefs.any fun ref => ref.uid = ownerUID

def isOwnedByKind (ownerRefs : List OwnerReference) (kind : String) : Bool :=
  ownerRefs.any fun ref => ref.kind = kind

/-- Someone else's, to be left alone by the owner with this UID. -/
def isExternalQueue (cfg : Config) (queue : Queue) (ownerUID : String) : Bool :=
  cfg.allowExternalQueues && !isOwnedByUID queue.ownerReferences ownerUID

def isManuallyOverridden (cfg : Config) (queue : Queue) : Bool :=
  (queue.labels.value cfg.resourceManualOverrideLabelKey).toList.map Char.toLower = "true".toList

/-! ## Writes -/

def areQueuesEqual (left right : Queue) : Bool :=
  left.name = right.name && left.labels = right.labels && left.ownerReferences = right.ownerReferences &&
    left.spec = right.spec

def updateExistingQueueWithExpectedValues (expectedQueueObject existingQueue : Queue) : Queue :=
  { existingQueue with
    labels := expectedQueueObject.labels
    ownerReferences := expectedQueueObject.ownerReferences
    spec := expectedQueueObject.spec }

/-- A name that is already held counts as success. -/
def createQueue (server : Server) (queueObject : Queue) (s : QueueStore) : Except ApiError QueueStore :=
  match clientCreate server queueObject s with
  | .error e => if e.isAlreadyExists then .ok s else .error e
  | .ok s' => .ok s'

def updateExistingQueue (cfg : Config) (server : Server) (expectedQueueObject existingQueue : Queue)
    (ownerUID : String) (s : QueueStore) : Except ApiError QueueStore :=
  if isExternalQueue cfg existingQueue ownerUID then .ok s
  else clientUpdate server (updateExistingQueueWithExpectedValues expectedQueueObject existingQueue) s

def deleteQueue (cfg : Config) (server : Server) (queue : Queue) (ownerUID : String) (s : QueueStore) :
    Except ApiError QueueStore :=
  if isExternalQueue cfg queue ownerUID then .ok s else clientDelete server queue.name s

/-! ## Listing -/

def requirement (key : String) (op : Operator) (values : List String) : Except ApiError Requirement :=
  match newRequirement key op values with
  | some r => .ok r
  | none => .error (.invalidRequirement key (values.headD ""))

/-- The queues of the default node pool carry no node-pool label. -/
def nodePoolRequirement (cfg : Config) (nodepoolName : String) : Except ApiError Requirement :=
  if nodepoolName = cfg.defaultNodepoolName then requirement cfg.nodePoolLabelKey .doesNotExist []
  else requirement cfg.nodePoolLabelKey .doubleEquals [nodepoolName]

def listQueuesWithLabelSelector (v : View) (labelKey labelValue : String) : Except ApiError (List Queue) :=
  v.listQueues [⟨labelKey, .doubleEquals, [labelValue]⟩]

def listQueuesForNodepool (cfg : Config) (v : View) (nodepoolName : String) : Except ApiError (List Queue) := do
  let nodePoolRequirement ← nodePoolRequirement cfg nodepoolName
  v.listQueues [nodePoolRequirement]

/-! ## The queue of a parent department -/

def departmentQueueByOwner (cfg : Config) (v : View) (department : Department) (nodepoolName : String) :
    Except ApiError String := do
  let queues ← listQueuesForNodepool cfg v nodepoolName
  match queues.find? fun q => isOwnedByUID q.ownerReferences department.uid with
  | some queue => .ok queue.name
  | none => .ok ""

/-- The queue named in the spec if the department owns it, else one that it owns in the node pool. -/
def departmentQueueName (cfg : Config) (v : View) (departmentName nodepoolName : String) :
    Except ApiError String :=
  if departmentName = "" then .ok ""
  else match v.getDepartment departmentName with
    | .error e => if e.isNotFound then .ok "" else .error e
    | .ok department =>
      match department.queues.find? fun queue => queue.nodepool = nodepoolName with
      | none => .ok ""
      | some queue =>
        let candidateName := getQueueName cfg queue department.name
        let byOwner :=
          if candidateName = "" then .ok "" else departmentQueueByOwner cfg v department nodepoolName
        match v.getQueue candidateName with
        | .ok candidate =>
          if isOwnedByUID candidate.ownerReferences department.uid then .ok candidateName else byOwner
        | .error e => if e.isNotFound then byOwner else .error e

/-! ## The loop walk -/

/-- The walk up from `name`; the `k`-th read is live. `fuel` bounds the reads. -/
def walkUp (v : View) (queueName : String) : Nat → Nat → List String → String → Except ApiError Bool
  | 0, _, _, _ => .ok false
  | fuel + 1, k, seen, name =>
    if name = "" then .ok false
    else if name = queueName then .ok true
    else if name ∈ seen then .ok false
    else match v.live k with
      | .error e => .error e
      | .ok s =>
        match s.get name with
        | none => .ok false
        | some queue => walkUp v queueName fuel (k + 1) (name :: seen) queue.spec.parentQueue

/-- Whether `queueName` is `parentQueue` or above it; each read but the last meets a new queue. -/
def wouldCloseQueueLoop (v : View) (queueName parentQueue : String) : Except ApiError Bool :=
  walkUp v queueName (v.queueCount + 1) 0 [] parentQueue

/-! ## Deletion -/

def deleteUnnecessaryQueue (cfg : Config) (server : Server) (reconciledQueues : List String)
    (ownerUID ownerKind : String) (acc : List ApiError × QueueStore) (existingQueue : Queue) :
    List ApiError × QueueStore :=
  if !isOwnedByKind existingQueue.ownerReferences ownerKind then acc
  else if existingQueue.name ∈ reconciledQueues then acc
  else match deleteQueue cfg server existingQueue ownerUID acc.2 with
    | .error e => (acc.1 ++ [e], acc.2)
    | .ok s => (acc.1, s)

/-- Labelled and owned by the kind, but not reconciled: deleted. -/
def deleteUnnecessaryQueues (cfg : Config) (m : Moment) (reconciledQueues : List String)
    (ownerUID labelKey labelValue ownerKind : String) : List ApiError × QueueStore :=
  match listQueuesWithLabelSelector m.view labelKey labelValue with
  | .error e => ([e], m.store)
  | .ok existingQueues =>
    existingQueues.foldl (deleteUnnecessaryQueue cfg m.server reconciledQueues ownerUID ownerKind) ([], m.store)

/-! ## Names taken by others -/

/-- Whether another resource has the name, and its queue. A failed read counts as free. -/
def isQueueTakenByOtherResource (cfg : Config) (v : View)
    (expectedDepartmentName expectedProjectName queueName ownerUID : String) : Bool × Option Queue :=
  match v.getQueue queueName with
  | .error _ => (false, none)
  | .ok existingQueue =>
    if isExternalQueue cfg existingQueue ownerUID then (true, some existingQueue)
    else
      let ownedByDepartment := isOwnedByKind existingQueue.ownerReferences departmentKind
      let ownedByProject := isOwnedByKind existingQueue.ownerReferences projectKind
      let departmentNameOnQueue := existingQueue.labels.value cfg.queueDepartmentNameLabelKey
      let projectNameOnQueue := existingQueue.labels.value cfg.projectLabelKey
      if expectedDepartmentName ≠ "" ∧ ownedByDepartment ∧ expectedDepartmentName = departmentNameOnQueue then
        (false, some existingQueue)
      else if expectedProjectName ≠ "" ∧ ownedByProject ∧ expectedProjectName = projectNameOnQueue then
        (false, some existingQueue)
      else if ownedByDepartment ∨ ownedByProject then (true, some existingQueue)
      else (false, some existingQueue)

def isSuggestedQueueTakenByOtherResource (cfg : Config) (v : View)
    (expectedDepartmentName expectedProjectName suggestedQueueName ownerUID : String) : Bool :=
  (isQueueTakenByOtherResource cfg v expectedDepartmentName expectedProjectName suggestedQueueName ownerUID).1

/-! ## Lookup -/

def addRequirement (labelKey labelValue : String) (result : Selector) : Except ApiError Selector :=
  if labelValue = "" then .ok result
  else do
    let r ← requirement labelKey .doubleEquals [labelValue]
    .ok (result ++ [r])

def createRequirementsForQueuesList (cfg : Config) (nodepoolName projectName departmentName : String) :
    Except ApiError Selector :=
  if projectName = "" ∧ departmentName = "" then
    .error (.failed ("wrong params for createRequirementsForQueuesList - project " ++ projectName ++
      ", department " ++ departmentName))
  else do
    let result ←
      if projectName ≠ "" then addRequirement cfg.projectLabelKey projectName []
      else addRequirement cfg.queueDepartmentNameLabelKey departmentName []
    let nodePoolRequirement ← nodePoolRequirement cfg nodepoolName
    .ok (result ++ [nodePoolRequirement])

def getExistingQueueByLabels (cfg : Config) (v : View)
    (nodepoolName projectName departmentName ownerUID : String) : Except ApiError Queue := do
  let requirements ← createRequirementsForQueuesList cfg nodepoolName projectName departmentName
  let queues ← v.listQueues requirements
  let expectedOwnerKind := if projectName ≠ "" then projectKind else departmentKind
  let ownerName := if projectName ≠ "" then projectName else departmentName
  match queues.find? fun q =>
      isOwnedByKind q.ownerReferences expectedOwnerKind && !isExternalQueue cfg q ownerUID with
  | some queue => .ok queue
  | none => .error (.notFound (ownerName ++ "/" ++ nodepoolName))

def getExistingQueueOfResource (cfg : Config) (v : View)
    (nodepoolName projectName departmentName suggestedQueueName ownerUID : String) : Except ApiError Queue :=
  match getExistingQueueByLabels cfg v nodepoolName projectName departmentName ownerUID with
  | .ok existingQueueByLabels => .ok existingQueueByLabels
  | .error e =>
    if !e.isNotFound then .error e
    else match isQueueTakenByOtherResource cfg v departmentName projectName suggestedQueueName ownerUID with
      | (false, some existingQueueWithExpectedName) => .ok existingQueueWithExpectedName
      | _ => .error (.notFound suggestedQueueName)

/-! ## Generated names -/

/-- The first `n` bytes of a name; names are ASCII. -/
def cutName (name : String) (n : Nat) : String := String.ofList (name.toList.take n)

/-- The `k`-th draw of length `len` behind `n` bytes of the name. -/
def suffixedName (v : View) (name : String) (n k len : Nat) : String := cutName name n ++ "-" ++ v.rand k len

/-- At most `tries` names, from `name` on; the next draw is the `k`-th. -/
def tryNames (v : View) (taken : String → Bool) (suggestedQueueName : String) (trimNameLen : Nat) :
    Nat → Nat → String → Option String
  | 0, _, _ => none
  | tries + 1, k, name =>
    if !taken name then some name
    else tryNames v taken suggestedQueueName trimNameLen tries (k + 1)
      (suffixedName v suggestedQueueName trimNameLen k queueNameRandSuffixLen)

/-- The source swaps the project's name and the department's here. -/
def generateQueueNameForResource (cfg : Config) (v : View)
    (projectName departmentName suggestedQueueName ownerUID : String) : String :=
  let nameLen := suggestedQueueName.toList.length
  let trimNameLen := min nameLen maxNameLen
  let newSuggestedQueueName :=
    if nameLen > maxNameLen then suffixedName v suggestedQueueName maxNameLen 0 queueNameRandSuffixLen
    else suggestedQueueName
  let draws := if nameLen > maxNameLen then 1 else 0
  let taken := fun name => isSuggestedQueueTakenByOtherResource cfg v projectName departmentName name ownerUID
  match tryNames v taken suggestedQueueName trimNameLen generateQueueNameTries draws newSuggestedQueueName with
  | some name => name
  | none =>
    suffixedName v suggestedQueueName (min trimNameLen maxNameLenWithLongSuffix)
      (draws + generateQueueNameTries) queueNameRandSuffixLongLen

end Krm.Queues
