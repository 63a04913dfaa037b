import Krm.Objects

/-! # What a queue reconcile reads and writes

Reads go through the manager's cache or, for the loop walk, straight to the API server; writes go to the
API server. One spec entry makes its reads first and at most one write last. -/

open Krm.Lib

namespace Krm.Queues

/-- What the reads made for one spec entry return. -/
structure View where
  getDepartment : String → Except ApiError Department
  getQueue : String → Except ApiError Queue
  listQueues : Selector → Except ApiError (List Queue)
  /-- The state that the `k`-th live read of the loop walk sees. -/
  live : Nat → Except ApiError QueueStore
  /-- How many queues the live reads can meet. -/
  queueCount : Nat
  /-- The `k`-th random text drawn, of the given length. -/
  rand : Nat → Nat → String

/-- Reads of a store that succeed and see its present state. -/
def View.fresh (departments : DepartmentStore) (rand : Nat → Nat → String) (s : QueueStore) : View where
  getDepartment name := match departments.get name with
    | some d => .ok d
    | none => .error (.notFound name)
  getQueue name := match s.get name with
    | some q => .ok q
    | none => .error (.notFound name)
  listQueues sel := .ok (s.list fun q => sel.Matches q.labels)
  live _ := .ok s
  queueCount := s.items.length
  rand := rand

theorem View.getQueue_fresh_some {departments : DepartmentStore} {rand : Nat → Nat → String} {s : QueueStore}
    {name : String} {q : Queue} (h : s.get name = some q) :
    (View.fresh departments rand s).getQueue name = .ok q := by
  simp [View.fresh, h]

theorem View.getQueue_fresh_none {departments : DepartmentStore} {rand : Nat → Nat → String} {s : QueueStore}
    {name : String} (h : s.get name = none) :
    (View.fresh departments rand s).getQueue name = .error (.notFound name) := by
  simp [View.fresh, h]

inductive Verb where
  | create
  | update
  | delete
deriving DecidableEq, Repr

/-- The reason to refuse a write to the named queue, and the version that a write gets. -/
structure Server where
  refuse : Verb → String → Option String
  version : Nat

def Server.willing (version : Nat) : Server := ⟨fun _ _ => none, version⟩

/-- `Create` fails with AlreadyExists exactly when the name is held. -/
def clientCreate (server : Server) (queue : Queue) (s : QueueStore) : Except ApiError QueueStore :=
  match server.refuse .create queue.name with
  | some message => .error (.failed message)
  | none =>
    match s.get queue.name with
    | some _ => .error (.alreadyExists queue.name)
    | none => .ok (s.insert { queue with resourceVersion := server.version })

/-- Refused when the object is gone or has changed. -/
def clientUpdate (server : Server) (queue : Queue) (s : QueueStore) : Except ApiError QueueStore :=
  match server.refuse .update queue.name with
  | some message => .error (.failed message)
  | none =>
    match s.get queue.name with
    | none => .error (.notFound queue.name)
    | some stored =>
      if stored.resourceVersion = queue.resourceVersion then
        .ok (s.replace { queue with resourceVersion := server.version })
      else .error (.conflict queue.name)

def clientDelete (server : Server) (name : String) (s : QueueStore) : Except ApiError QueueStore :=
  match server.refuse .delete name with
  | some message => .error (.failed message)
  | none =>
    match s.get name with
    | none => .error (.notFound name)
    | some _ => .ok (s.remove name)

/-- What the work on an entry meets: its reads, the server, and the store at its write. -/
structure Moment where
  view : View
  server : Server
  store : QueueStore

/-- From the store as it was when the work on the entry began. -/
abbrev Environment := Nat → QueueStore → Moment

def Environment.fresh (departments : DepartmentStore) (rand : Nat → Nat → Nat → String)
    (server : Nat → Server) : Environment :=
  fun i s => ⟨View.fresh departments (rand i) s, server i, s⟩

end Krm.Queues
