import Krm.Projects.LimitRanges
import Krm.Projects.Namespaces
import Krm.Queues.Deletion

/-! # The reconciles of Projects and Departments -/

open Krm.Lib

namespace Krm.Projects

section

variable (cfg : ControllerConfig) (env : Surroundings)

/-! ## Handlers over the cluster

Each handler returns its errors, and leaves the cluster as its writes have made it. -/

def handleNamespace (project : ProjectObject) (c : Cluster) : List ApiError × Cluster :=
  match NamespaceResourceHandler.handleResourceInner cfg env project c.namespaces with
  | .error failure => ([failure.err], c)
  | .ok namespaces => ([], { c with namespaces := namespaces })

def handleQueues (project : ProjectObject) (c : Cluster) : List ApiError × Cluster :=
  let handled := Queues.QueueResourceHandler.handleResourceInner cfg.toConfig env.queues project.toProject c.queues
  (handled.1, { c with queues := handled.2 })

def handleLimitRange (project : ProjectObject) (c : Cluster) : List ApiError × Cluster :=
  match LimitRangeResourceHandler.handleResourceInner cfg env project c with
  | .error e => ([e], c)
  | .ok limitRanges => ([], { c with limitRanges := limitRanges })

def deleteQueues (project : ProjectObject) (c : Cluster) : List ApiError × Cluster :=
  let deleted := Queues.QueueDeletionHandler.onDeleteInner cfg.toConfig (env.queues 0 c.queues) project.toProject
  (deleted.1, { c with queues := deleted.2 })

def deleteLimitRange (project : ProjectObject) (c : Cluster) : List ApiError × Cluster :=
  match LimitRangeDeletionHandler.onDelete cfg env project c with
  | .error e => ([e], c)
  | .ok limitRanges => ([], { c with limitRanges := limitRanges })

/-! ## Runs -/

/-- Every handler runs, whatever the others return. -/
def runHandlers (handlers : List (Cluster → List ApiError × Cluster)) (c : Cluster) : List ApiError × Cluster :=
  handlers.foldl (fun acc handler => (acc.1 ++ (handler acc.2).1, (handler acc.2).2)) ([], c)

def reconcilers (project : ProjectObject) : List (Cluster → List ApiError × Cluster) :=
  [handleNamespace cfg env project, handleQueues cfg env project] ++
    if cfg.limitRange then [handleLimitRange cfg env project] else []

def deletionHandlers (project : ProjectObject) : List (Cluster → List ApiError × Cluster) :=
  deleteQueues cfg env project :: if cfg.limitRange then [deleteLimitRange cfg env project] else []

def reconcileProject (project : ProjectObject) (c : Cluster) : List ApiError × Cluster :=
  runHandlers (reconcilers cfg env project) c

def finalizeProject (project : ProjectObject) (c : Cluster) : List ApiError × Cluster :=
  if project.blockingDeletion && !env.blocked.isEmpty then (env.blocked, c)
  else runHandlers (deletionHandlers cfg env project) c

def finalize (project : ProjectObject) (c : Cluster) : List ApiError × Cluster :=
  if finalizerName cfg ∉ project.finalizers then ([], c)
  else if isManuallyOverridden cfg.toConfig project.labels then ([], c)
  else finalizeProject cfg env project c

def reconcileDepartment (department : Department) (c : Cluster) : List ApiError × Cluster :=
  let handled := Queues.DepartmentHandler.handle cfg.toConfig env.queues department c.queues
  (handled.2.1, { c with queues := handled.2.2 })

end

end Krm.Projects
