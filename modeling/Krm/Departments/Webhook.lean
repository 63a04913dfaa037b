import Krm.Departments.Tree
import Krm.Objects

/-! # Admission and finalization of departments and projects -/

open Krm.Lib

namespace Krm.Departments

structure StoredDepartment extends Department where
  deleted : Bool
  finalizers : List String
  name_ne : name ≠ ""

structure StoredProject extends Project where
  defaultNodePools : List String
  deleted : Bool
  finalizers : List String

structure Cluster where
  departments : Store fun d : StoredDepartment => d.name
  projects : Store fun p : StoredProject => p.name
  nodePools : List String

inductive Read where
  | department (name : String)
  | liveDepartment (name : String)
  | departments
  | nodePools
  | projectsOf (department : String)
  | childrenOf (department : String)
deriving DecidableEq, Repr

/-- Which reads fail, and with what text. -/
abbrev Faults := Read → Option String

/-- A violation of a rule by the object, or a failure of the cluster. -/
inductive ValidationError where
  | denied (message : String)
  | internal (message : String)
deriving DecidableEq, Repr

def quoted (s : String) : String := "\"" ++ s ++ "\""

section

variable (fault : Faults) (s : Cluster)

def readDepartment (read : Read) (name : String) : Except ApiError StoredDepartment :=
  match fault read with
  | some message => .error (.failed message)
  | none =>
    match s.departments.get name with
    | some department => .ok department
    | none => .error (.notFound name)

/-- A cache miss is read again live. -/
def getParentDepartment (name : String) : Except ValidationError StoredDepartment :=
  let found :=
    match readDepartment fault s (.department name) name with
    | .error (.notFound _) => readDepartment fault s (.liveDepartment name) name
    | cached => cached
  match found with
  | .ok department => .ok department
  | .error (.notFound _) => .error (.denied ("parent department " ++ quoted name ++ " does not exist"))
  | .error _ => .error (.internal ("failed to get parent department " ++ quoted name))

def newTree (departments : Store fun d : StoredDepartment => d.name) : Tree where
  items := departments.items.map fun d => (d.name, d.parent)
  nodup := by
    rw [List.map_map]
    exact departments.nodup

def validateDepartmentParent (department : Department) : List ValidationError :=
  let parentName := department.parent
  if parentName = "" then []
  else
    match getParentDepartment fault s parentName with
    | .error e => [e]
    | .ok parent =>
      if parent.deleted then [.denied ("parent department " ++ quoted parentName ++ " is being deleted")]
      else
        match fault .departments with
        | some message => [.internal ("failed to list departments: " ++ message)]
        | none =>
          -- With the parent that was read, and the department as it is to be.
          let tree := ((newTree s.departments).set parent.name parent.parent).set
            department.name parentName
          let (ancestors, inLoop) := tree.ancestors department.name maxDepth
          let refusal := "department " ++ quoted department.name ++ " cannot have parent " ++ quoted parentName ++ ": "
          if inLoop then
            [.denied (refusal ++ "that would make a loop: " ++
              " -> ".intercalate (department.name :: ancestors ++ [department.name]))]
          else if ancestors.length + tree.height department.name maxDepth > maxDepth then
            [.denied (refusal ++ "departments can nest at most " ++ toString maxDepth ++
              " levels deep, and this would nest them deeper")]
          else []

/-! ## Queues and default node pools -/

def validateQueues (existingNodePools : List String) : List String → List QueueConfig → List ValidationError
  | _, [] => []
  | seenQueues, queue :: queues =>
    let named := "queue " ++ quoted queue.name ++ ": "
    if queue.nodepool = "" then
      .denied (named ++ "node pool must not be empty") :: validateQueues existingNodePools seenQueues queues
    else if queue.nodepool ∈ seenQueues then
      .denied (named ++ "node pool " ++ quoted queue.nodepool ++ " is already referenced by another queue") ::
        validateQueues existingNodePools seenQueues queues
    else
      (if queue.nodepool ∈ existingNodePools then []
        else [.denied (named ++ "node pool " ++ quoted queue.nodepool ++ " does not exist")]) ++
        validateQueues existingNodePools (queue.nodepool :: seenQueues) queues

def validateQueueNodePoolsExist (queues : List QueueConfig) : List ValidationError :=
  if queues.isEmpty then []
  else
    match fault .nodePools with
    | some message => [.internal ("failed to list node pools: " ++ message)]
    | none => validateQueues s.nodePools [] queues

def validateDefaultNodePoolsHaveQueues (defaultNodePools : List String) (queues : List QueueConfig) :
    List ValidationError :=
  (defaultNodePools.filter (· ∉ queues.map QueueConfig.nodepool)).map fun nodePool =>
    .denied ("the nodepool " ++ quoted nodePool ++ " from the DefaultNodePools list has no queue defined in the spec")

/-! ## Departments and projects -/

/-- A parent is checked only when it is new. -/
def validateDepartment (department : Department) (oldDepartment : Option Department) : List ValidationError :=
  validateQueueNodePoolsExist fault s department.queues ++
    if oldDepartment.any (fun old => old.parent = department.parent) then []
    else validateDepartmentParent fault s department

def validateParent (parent : String) : List ValidationError :=
  if parent = "" then []
  else
    match getParentDepartment fault s parent with
    | .error e => [e]
    | .ok _ => []

def validateProject (project : Project) (defaultNodePools : List String) : List ValidationError :=
  validateParent fault s project.parent ++ validateQueueNodePoolsExist fault s project.queues ++
    validateDefaultNodePoolsHaveQueues defaultNodePools project.queues

/-! ## Finalization -/

/-- The last term takes the place of the one that is removed. -/
def deleteTerm (term : String) (list : List String) : List String :=
  match list.idxOf? term with
  | none => list
  | some i => (list.set i (list.getLastD "")).dropLast

def getProjectsOfDepartment (name : String) : Except String (List StoredProject) :=
  match fault (.projectsOf name) with
  | some message => .error message
  | none => .ok (s.projects.list fun p => p.parent ≠ "" && p.parent = name)

def getChildDepartments (name : String) : Except String (List StoredDepartment) :=
  match fault (.childrenOf name) with
  | some message => .error message
  | none => .ok (s.departments.list fun d => d.parent ≠ "" && d.parent = name)

def blockDeletion (department : StoredDepartment) (referrers : String) (count : Nat) (first : String) : String :=
  "department " ++ quoted department.name ++ " cannot be deleted: " ++ toString count ++ " " ++ referrers ++
    " still reference it (e.g. " ++ quoted first ++ ")"

/-- The finalizers that are kept, or why the controller's is. -/
def finalize (finalizerName : String) (department : StoredDepartment) : Except String (List String) :=
  if finalizerName ∉ department.finalizers then .ok department.finalizers
  else
    match getProjectsOfDepartment fault s department.name with
    | .error message => .error message
    | .ok (project :: projects) =>
      .error (blockDeletion department "project(s)" (projects.length + 1) project.name)
    | .ok [] =>
      match getChildDepartments fault s department.name with
      | .error message => .error message
      | .ok (child :: children) =>
        .error (blockDeletion department "child department(s)" (children.length + 1) child.name)
      | .ok [] => .ok (deleteTerm finalizerName department.finalizers)

end

end Krm.Departments
