import Mathlib.Logic.Function.Basic
import Mathlib.Logic.Relation

/-! # Controllers with a work queue

A controller reads objects from caches that lag behind the server, kind by kind. A change that reaches a cache wakes
requests; a request that is taken up reads the caches at different moments and writes to the server. What a request
settles holds on the server whenever nothing is left to do for the request.
-/

open Relation

namespace Krm.Lib

section

variable {ι Request : Type} {Objects View : ι → Type}

structure Controller (ι : Type) (Objects : ι → Type) (Request : Type) (View : ι → Type) where
  /-- What the request reads of the objects of a kind. -/
  view (i : ι) (objects : Objects i) (request : Request) : View i
  /-- A change, as its cache sees it, puts the request into the queue. -/
  wakes (i : ι) (before after : Objects i) (request : Request) : Prop
  /-- What a successful run that has read some kinds makes of the server. -/
  writes (request : Request) (seen : ∀ i, Option (View i)) (before after : ∀ i, Objects i) : Prop
  /-- What the request is to bring about. -/
  good (request : Request) (views : ∀ i, View i) : Prop

/-- Unseen changes wake no one; a run that saw all settles the request or wakes it. -/
structure Controller.Sound (c : Controller ι Objects Request View) : Prop where
  covered : ∀ {i before after request}, ¬ c.wakes i before after request →
    c.view i after request = c.view i before request
  settles : ∀ {request seen before after}, (∀ i v, seen i = some v → v = c.view i (before i) request) →
    c.writes request seen before after → (∀ i, ¬ c.wakes i (before i) (after i) request) →
    c.good request fun i => c.view i (before i) request

structure WorkQueue (ι : Type) (Objects : ι → Type) (Request : Type) (View : ι → Type) where
  cached : ∀ i, Objects i
  /-- What each watch has still to deliver; the last is what the server holds. -/
  undelivered : ∀ i, List (Objects i)
  waiting : Request → Prop
  running : Request → Option (∀ i, Option (View i))

namespace WorkQueue

def server (q : WorkQueue ι Objects Request View) (i : ι) : Objects i := (q.undelivered i).getLastD (q.cached i)

/-- Empty caches, and watches that list everything. -/
def start (none stored : ∀ i, Objects i) : WorkQueue ι Objects Request View :=
  ⟨none, fun i => [stored i], fun _ => False, fun _ => .none⟩

variable [DecidableEq ι] [DecidableEq Request]

inductive Step (c : Controller ι Objects Request View) :
    WorkQueue ι Objects Request View → WorkQueue ι Objects Request View → Prop
  /-- Somebody else writes objects of a kind. -/
  | changed (q) (i : ι) (objects : Objects i) :
      Step c q { q with undelivered := Function.update q.undelivered i (q.undelivered i ++ [objects]) }
  | delivered (q) (i : ι) (next : Objects i) (rest : List (Objects i)) (h : q.undelivered i = next :: rest) :
      Step c q { q with
        cached := Function.update q.cached i next
        undelivered := Function.update q.undelivered i rest
        waiting := fun request => q.waiting request ∨ c.wakes i (q.cached i) next request }
  | started (q) (request : Request) (hwaiting : q.waiting request) (h : q.running request = .none) :
      Step c q { q with
        waiting := fun other => q.waiting other ∧ other ≠ request
        running := Function.update q.running request (some fun _ => .none) }
  | read (q) (request : Request) (i : ι) (seen : ∀ i, Option (View i)) (h : q.running request = some seen) :
      Step c q { q with
        running := Function.update q.running request
          (some (Function.update seen i (some (c.view i (q.cached i) request)))) }
  | finished (q) (request : Request) (seen : ∀ i, Option (View i)) (after : ∀ i, Objects i)
      (h : q.running request = some seen) (hwrites : c.writes request seen q.server after) :
      Step c q { q with
        undelivered := fun i => q.undelivered i ++ [after i]
        running := Function.update q.running request .none }
  /-- A run that fails, at whatever call, is put back into the queue. -/
  | failed (q) (request : Request) :
      Step c q { q with
        waiting := fun other => q.waiting other ∨ other = request
        running := Function.update q.running request .none }

end WorkQueue

/-! ## What is still to come -/

namespace Controller

variable (c : Controller ι Objects Request View)

/-- One of the changes that a watch has still to deliver wakes the request. -/
def Due (i : ι) (request : Request) : Objects i → List (Objects i) → Prop
  | _, [] => False
  | objects, next :: rest => c.wakes i objects next request ∨ Due i request next rest

variable {c} {i : ι} {request : Request}

theorem due_append {objects last : Objects i} {later : List (Objects i)} :
    c.Due i request objects (later ++ [last]) ↔
      c.Due i request objects later ∨ c.wakes i (later.getLastD objects) last request := by
  induction later generalizing objects with
  | nil => simp [Due]
  | cons next rest ih =>
    rw [List.cons_append, Due, Due, ih, List.getLastD_cons, or_assoc]

theorem Sound.view_last (hsound : c.Sound) {objects : Objects i} {later : List (Objects i)}
    (h : ¬ c.Due i request objects later) :
    c.view i (later.getLastD objects) request = c.view i objects request := by
  induction later generalizing objects with
  | nil => rfl
  | cons next rest ih =>
    rw [Due, not_or] at h
    rw [List.getLastD_cons, ih h.2, hsound.covered h.1]

end Controller

/-! ## The invariant of a run -/

namespace WorkQueue

variable (c : Controller ι Objects Request View)

/-- Nothing is left to do for the request. -/
structure Quiet (q : WorkQueue ι Objects Request View) (request : Request) : Prop where
  waiting : ¬ q.waiting request
  running : q.running request = none
  due : ∀ i, ¬ c.Due i request (q.cached i) (q.undelivered i)

/-- The request will be taken up, its reads are the caches', or it is settled. -/
def Kept (q : WorkQueue ι Objects Request View) (request : Request) : Prop :=
  q.waiting request ∨ (∃ i, c.Due i request (q.cached i) (q.undelivered i)) ∨
    match q.running request with
    | some seen => ∀ i v, seen i = some v → v = c.view i (q.cached i) request
    | none => c.good request fun i => c.view i (q.cached i) request

variable {c} {q q' : WorkQueue ι Objects Request View} {request : Request}

theorem Kept.mono (h : q.Kept c request) (hwaiting : q.waiting request → q'.waiting request)
    (hdue : ∀ i, c.Due i request (q.cached i) (q.undelivered i) →
      q'.waiting request ∨ ∃ j, c.Due j request (q'.cached j) (q'.undelivered j))
    (hview : q'.waiting request ∨ ∀ i, c.view i (q'.cached i) request = c.view i (q.cached i) request)
    (hrunning : q'.running request = q.running request) : q'.Kept c request := by
  rcases h with hwait | ⟨i, hi⟩ | hsettled
  · exact .inl (hwaiting hwait)
  · rcases hdue i hi with hwait | hlater
    · exact .inl hwait
    · exact .inr (.inl hlater)
  · rcases hview with hwait | hview
    · exact .inl hwait
    · refine .inr (.inr ?_)
      simpa only [hrunning, hview] using hsettled

theorem server_view (hsound : c.Sound) (h : ∀ i, ¬ c.Due i request (q.cached i) (q.undelivered i)) (i : ι) :
    c.view i (q.server i) request = c.view i (q.cached i) request :=
  hsound.view_last (h i)

variable [DecidableEq ι] [DecidableEq Request]

theorem Kept.step (hsound : c.Sound) (hstep : Step c q q') (h : ∀ request, q.Kept c request) (request : Request) :
    q'.Kept c request := by
  have hrequest := h request
  cases hstep with
  | changed i objects =>
    refine hrequest.mono id (fun j hj => .inr ⟨j, ?_⟩) (.inr fun _ => rfl) rfl
    by_cases hij : j = i
    · subst hij
      simpa using c.due_append.2 (.inl hj)
    · simpa [hij] using hj
  | delivered i next rest hnext =>
    refine hrequest.mono .inl (fun j hj => ?_) ?_ rfl
    · by_cases hij : j = i
      · subst hij
        rw [hnext, Controller.Due] at hj
        refine hj.imp .inr fun hlater => ⟨j, ?_⟩
        simpa using hlater
      · exact .inr ⟨j, by simpa [hij] using hj⟩
    · -- an event that wakes nobody leaves the verdict as it was
      by_cases hwakes : c.wakes i (q.cached i) next request
      · exact .inl (.inr hwakes)
      · refine .inr fun j => ?_
        by_cases hij : j = i
        · subst hij
          simpa using hsound.covered hwakes
        · simp [hij]
  | started other _ _ =>
    by_cases hother : request = other
    · -- nothing has been read yet
      subst hother
      exact .inr (.inr (by simp))
    · exact hrequest.mono (fun hwait => ⟨hwait, hother⟩) (fun j hj => .inr ⟨j, hj⟩) (.inr fun _ => rfl)
        (by simp [hother])
  | read other i seen hseen =>
    by_cases hother : request = other
    · subst hother
      refine hrequest.imp_right (Or.imp_right fun hsettled => ?_)
      simp only [hseen, Function.update_self] at hsettled ⊢
      intro j v hv
      by_cases hij : j = i
      · subst hij
        simpa using hv.symm
      · exact hsettled j v (by simpa [hij] using hv)
    · exact hrequest.mono id (fun j hj => .inr ⟨j, hj⟩) (.inr fun _ => rfl) (by simp [hother])
  | finished other seen after hseen hwrites =>
    have hlater : ∀ j, c.Due j request (q.cached j) (q.undelivered j) →
        c.Due j request (q.cached j) (q.undelivered j ++ [after j]) := fun j hj => c.due_append.2 (.inl hj)
    by_cases hother : request = other
    · subst hother
      rcases hrequest with hwait | ⟨i, hi⟩ | hsettled
      · exact .inl hwait
      · exact .inr (.inl ⟨i, hlater i hi⟩)
      · -- the run saw the caches as they are: if the server is no further, it saw the server
        by_cases hdue : ∃ i, c.Due i request (q.cached i) (q.undelivered i ++ [after i])
        · exact .inr (.inl hdue)
        · simp only [not_exists, Controller.due_append, not_or] at hdue
          have hview := server_view hsound fun i => (hdue i).1
          rw [hseen] at hsettled
          refine .inr (.inr ?_)
          have hgood := hsound.settles (fun i v hv => (hsettled i v hv).trans (hview i).symm) hwrites fun i => (hdue i).2
          simpa [hview] using hgood
    · exact hrequest.mono id (fun j hj => .inr ⟨j, hlater j hj⟩) (.inr fun _ => rfl) (by simp [hother])
  | failed other =>
    by_cases hother : request = other
    · exact .inl (.inr hother)
    · exact hrequest.mono .inl (fun j hj => .inr ⟨j, hj⟩) (.inr fun _ => rfl) (by simp [hother])

/-- A request for which nothing is left to do is settled on the server. -/
theorem good_of_quiet (hsound : c.Sound) {none stored : ∀ i, Objects i}
    (hnone : ∀ request, c.good request fun i => c.view i (none i) request)
    (hreach : ReflTransGen (Step c) (start none stored) q) (hquiet : q.Quiet c request) :
    c.good request fun i => c.view i (q.server i) request := by
  have hkept : ∀ request, q.Kept c request := by
    clear hquiet
    induction hreach with
    | refl => exact fun request => .inr (.inr (hnone request))
    | tail _ hstep ih => exact Kept.step hsound hstep ih
  rcases hkept request with hwait | ⟨i, hi⟩ | hsettled
  · exact absurd hwait hquiet.waiting
  · exact absurd hi (hquiet.due i)
  · rw [hquiet.running] at hsettled
    simpa only [server_view hsound hquiet.due] using hsettled

end WorkQueue

end

end Krm.Lib
