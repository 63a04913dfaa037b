import Mathlib.Data.Finset.Union

/-! # JSON merge patches (RFC 7386) -/

namespace Krm.Lib

/-- Texts, numbers and arrays are leaves, replaced as a whole. -/
inductive Json (α : Type) where
  | null
  | leaf (a : α)
  | object (names : Finset String) (value : String → Json α)

namespace Json

variable {α : Type}

def isNull : Json α → Bool
  | null => true
  | _ => false

def names : Json α → Finset String
  | object names _ => names
  | _ => ∅

def value : Json α → String → Json α
  | object _ value => value
  | _ => fun _ => null

def get (j : Json α) (name : String) : Option (Json α) := if name ∈ j.names then some (j.value name) else none

def field (j : Json α) (name : String) : Json α := (j.get name).getD null

/-- Of two fields with one name the first counts. -/
def ofFields (fields : List (String × Json α)) : Json α :=
  object (fields.map Prod.fst).toFinset fun name => (fields.lookup name).getD null

/-- `null` removes a name, objects are merged, anything else replaces. -/
def mergePatch (target : Json α) : Json α → Json α
  | object names value =>
    object (target.names \ names ∪ names.filter fun name => !(value name).isNull) fun name =>
      if name ∈ names then mergePatch (target.field name) (value name) else target.value name
  | patch => patch

theorem get_object (names : Finset String) (value : String → Json α) (name : String) :
    (object names value).get name = if name ∈ names then some (value name) else none := rfl

/-- The patch decides about the names in it and leaves the others alone. -/
theorem get_mergePatch (target : Json α) (names : Finset String) (value : String → Json α) (name : String) :
    (mergePatch target (object names value)).get name =
      if name ∈ names then
        if (value name).isNull then none else some (mergePatch (target.field name) (value name))
      else target.get name := by
  rw [mergePatch, get_object]
  by_cases hname : name ∈ names
  · cases hnull : (value name).isNull with
    | true => simp [hname, hnull]
    | false => simp [hname, hnull]
  · simp [hname, get]

theorem get_ofFields (fields : List (String × Json α)) (name : String) :
    (ofFields fields).get name = fields.lookup name := by
  have hmem : name ∈ (fields.map Prod.fst).toFinset ↔ fields.lookup name ≠ none := by
    rw [List.mem_toFinset, List.mem_map, Ne, List.lookup_eq_none_iff]
    constructor
    · rintro ⟨field, hfield, rfl⟩ hall
      exact bne_iff_ne.1 (hall field hfield) rfl
    · intro hnot
      by_contra hno
      exact hnot fun field hfield => bne_iff_ne.2 fun hname => hno ⟨field, hfield, hname.symm⟩
  rw [ofFields, get_object]
  cases hlookup : fields.lookup name with
  | none => exact if_neg fun hname => hmem.1 hname hlookup
  | some v => exact if_pos (hmem.2 (by simp [hlookup]))

theorem field_mergePatch (target : Json α) {fields : List (String × Json α)} {name : String} {v : Json α}
    (h : fields.lookup name = some v) :
    (mergePatch target (ofFields fields)).field name = mergePatch (target.field name) v := by
  have hget : (ofFields fields).get name = some v := (get_ofFields fields name).trans h
  rw [ofFields, get_object] at hget
  split_ifs at hget with hname
  rw [field, ofFields, get_mergePatch, if_pos hname, Option.some.inj hget]
  cases v with
  | null => rfl
  | leaf a => rfl
  | object names value => rfl

end Json

end Krm.Lib
