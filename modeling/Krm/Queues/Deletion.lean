import Krm.Queues.Handlers

/-! # The queues of a Project that is deleted -/

open Krm.Lib

namespace Krm.Queues

namespace QueueDeletionHandler

def deleteResource (server : Server) (queue : Queue) (s : QueueStore) : Except ApiError QueueStore :=
  match clientDelete server queue.name s with
  | .error e => if e.isNotFound then .ok s else .error e
  | .ok s' => .ok s'

def deleteExistingResourceIfNeeded (cfg : Config) (server : Server) (queue : Queue) (s : QueueStore) :
    Except ApiError QueueStore :=
  if isManuallyOverridden cfg queue then .ok s else deleteResource server queue s

def deleteListed (cfg : Config) (server : Server) (projectUID : String) (acc : List ApiError × QueueStore)
    (queue : Queue) : List ApiError × QueueStore :=
  if isExternalQueue cfg queue projectUID then acc
  else match deleteExistingResourceIfNeeded cfg server queue acc.2 with
    | .error e => (acc.1 ++ [e], acc.2)
    | .ok s => (acc.1, s)

/-- The errors met (none: nil) and the store afterwards. -/
def onDeleteInner (cfg : Config) (m : Moment) (project : Project) : List ApiError × QueueStore :=
  match listQueuesWithLabelSelector m.view cfg.projectLabelKey project.name with
  | .error e => ([e], m.store)
  | .ok queues => queues.foldl (deleteListed cfg m.server project.uid) ([], m.store)

end QueueDeletionHandler

end Krm.Queues
