import Krm.Lib.Store

/-! # Informers

An informer keeps a store and tells of each change of it. The store can be ahead of what has been told.
-/

namespace Krm.Lib

section

variable {α κ : Type}

inductive Notice (α : Type) where
  | added (a : α)
  | modified (old new : α)
  | deleted (a : α)

namespace Notice

def before : Notice α → Option α
  | .added _ => none
  | .modified old _ => some old
  | .deleted a => some a

def after : Notice α → Option α
  | .added a => some a
  | .modified _ new => some new
  | .deleted _ => none

/-- The object as an event handler gets it. -/
def object : Notice α → α
  | .added a => a
  | .modified _ new => new
  | .deleted a => a

end Notice

variable [DecidableEq κ] {key : α → κ}

structure Informer (key : α → κ) where
  store : Store key
  /-- What has not been told yet, in order. -/
  notices : List (Notice α)

namespace Informer

/-- Anything else than a change of the object under its key is not told. -/
def add (a : α) (i : Informer key) : Informer key :=
  match i.store.get (key a) with
  | some _ => i
  | none => ⟨i.store.insert a, i.notices ++ [.added a]⟩

def update (a : α) (i : Informer key) : Informer key :=
  match i.store.get (key a) with
  | some old => ⟨i.store.replace a, i.notices ++ [.modified old a]⟩
  | none => i

def delete (k : κ) (i : Informer key) : Informer key :=
  match i.store.get k with
  | some old => ⟨i.store.remove k, i.notices ++ [.deleted old]⟩
  | none => i

/-- A new listener is told of all there is. -/
def relist (i : Informer key) : Informer key := ⟨i.store, i.store.items.map .added⟩

end Informer

/-! ## The notices of one key -/

/-- The notices of the key lead from its first state to its last. -/
def Leads (key : α → κ) (k : κ) : Option α → List (Notice α) → Option α → Prop
  | s, [], t => s = t
  | s, e :: rest, t => if key e.object = k then s = e.before ∧ Leads key k e.after rest t else Leads key k s rest t

namespace Leads

variable {k : κ} {s t u : Option α} {notices : List (Notice α)}

theorem cons_self {e : Notice α} (hkey : key e.object = k) :
    Leads key k s (e :: notices) t ↔ s = e.before ∧ Leads key k e.after notices t := by
  rw [Leads, if_pos hkey]

theorem cons_other {e : Notice α} (hkey : key e.object ≠ k) :
    Leads key k s (e :: notices) t ↔ Leads key k s notices t := by
  rw [Leads, if_neg hkey]

theorem of_others (h : ∀ e ∈ notices, key e.object ≠ k) : Leads key k s notices s := by
  induction notices with
  | nil => rfl
  | cons first rest ih =>
    rw [List.forall_mem_cons] at h
    exact (cons_other h.1).2 (ih h.2)

theorem append {e : Notice α} (h : Leads key k s notices t)
    (hlast : if key e.object = k then t = e.before ∧ u = e.after else u = t) : Leads key k s (notices ++ [e]) u := by
  induction notices generalizing s with
  | nil =>
    obtain rfl : s = t := h
    split_ifs at hlast with hkey
    · simpa [Leads, hkey, hlast.2] using hlast.1
    · simp [Leads, hkey, hlast]
  | cons first rest ih =>
    rw [List.cons_append]
    by_cases hkey : key first.object = k
    · rw [cons_self hkey] at h ⊢
      exact ⟨h.1, ih h.2⟩
    · rw [cons_other hkey] at h ⊢
      exact ih h

theorem exists_change {β : Type} (f : Option α → β) (h : Leads key k s notices t) (hne : f s ≠ f t) :
    ∃ e ∈ notices, key e.object = k ∧ f e.before ≠ f t ∧ f e.after = f t := by
  induction notices generalizing s with
  | nil => exact absurd (congrArg f h) hne
  | cons first rest ih =>
    by_cases hkey : key first.object = k
    · obtain ⟨rfl, hrest⟩ := (cons_self hkey).1 h
      by_cases hthere : f first.after = f t
      · exact ⟨first, List.mem_cons_self, hkey, hne, hthere⟩
      · obtain ⟨e, he, hfound⟩ := ih hrest hthere
        exact ⟨e, List.mem_cons_of_mem _ he, hfound⟩
    · obtain ⟨e, he, hfound⟩ := ih ((cons_other hkey).1 h) hne
      exact ⟨e, List.mem_cons_of_mem _ he, hfound⟩

end Leads

namespace Informer

/-- One more notice tells of what has changed in the store. -/
def Tells (e : Notice α) (i i' : Informer key) : Prop :=
  i'.notices = i.notices ++ [e] ∧ ∀ k, if key e.object = k then i.store.get k = e.before ∧ i'.store.get k = e.after
    else i'.store.get k = i.store.get k

variable {i i' : Informer key} {k : κ} {s : Option α}

theorem add_tells (a : α) (i : Informer key) : i.add a = i ∨ Tells (.added a) i (i.add a) := by
  unfold add
  split
  · exact .inl rfl
  · rename_i hfree
    refine .inr ⟨rfl, fun k => ?_⟩
    split_ifs with hkey
    · obtain rfl : key a = k := hkey
      exact ⟨hfree, Store.get_insert_self _ a rfl hfree⟩
    · exact ((Store.agreeOff_insert i.store a rfl).get_eq (List.mem_singleton.not.2 (Ne.symm hkey))).symm

theorem update_tells (a : α) (i : Informer key) : i.update a = i ∨ ∃ old, Tells (.modified old a) i (i.update a) := by
  unfold update
  split
  · rename_i old hold
    refine .inr ⟨old, rfl, fun k => ?_⟩
    split_ifs with hkey
    · obtain rfl : key a = k := hkey
      exact ⟨hold, Store.get_replace_self _ a rfl (by simp [hold])⟩
    · exact ((Store.agreeOff_replace i.store a rfl).get_eq (List.mem_singleton.not.2 (Ne.symm hkey))).symm
  · exact .inl rfl

theorem delete_tells (k' : κ) (i : Informer key) : i.delete k' = i ∨ ∃ old, Tells (.deleted old) i (i.delete k') := by
  unfold delete
  split
  · rename_i old hold
    have hkey' : key old = k' := Store.get_key hold
    refine .inr ⟨old, rfl, fun k => ?_⟩
    split_ifs with hkey
    · obtain rfl : k' = k := hkey'.symm.trans hkey
      exact ⟨hold, Store.get_remove_self _ _⟩
    · have hne : k ≠ k' := fun heq => hkey (hkey'.trans heq.symm)
      exact ((Store.agreeOff_remove i.store k').get_eq (List.mem_singleton.not.2 hne)).symm
  · exact .inl rfl

theorem Tells.leads {e : Notice α} (htells : Tells e i i') (h : Leads key k s i.notices (i.store.get k)) :
    Leads key k s i'.notices (i'.store.get k) := by
  rw [htells.1]
  exact h.append (htells.2 k)

theorem leads_relist (k : κ) : Leads key k none i.relist.notices (i.relist.store.get k) := by
  have hlist : ∀ l : List α, (l.map key).Nodup → Leads key k none (l.map .added) (l.find? (key · = k)) := by
    intro l hnodup
    induction l with
    | nil => rfl
    | cons a l ih =>
      rw [List.map_cons, List.nodup_cons] at hnodup
      rw [List.map_cons, List.find?_cons]
      by_cases hkey : key a = k
      · have hothers : ∀ e ∈ l.map Notice.added, key e.object ≠ k := by
          rw [List.forall_mem_map]
          exact fun b hb hbk => hnodup.1 (hkey.trans hbk.symm ▸ List.mem_map_of_mem hb)
        rw [Leads.cons_self hkey, decide_eq_true hkey]
        exact ⟨rfl, .of_others hothers⟩
      · rw [Leads.cons_other hkey, decide_eq_false hkey]
        exact ih hnodup.2
  exact hlist _ i.store.nodup

end Informer

end

end Krm.Lib
