import Mathlib.Data.Finmap

/-! # Labels and label selectors -/

namespace Krm.Lib

/-- A label (or annotation) map: finitely many keys, one value each. -/
abbrev Labels := Finmap (fun _ : String => String)

namespace Labels

def value (ls : Labels) (k : String) : String := (ls.lookup k).getD ""

end Labels

/-! ## Syntax of label values -/

def isLabelChar (c : Char) : Bool := c.isAlphanum || c == '-' || c == '_' || c == '.'

/-- At most 63 label characters, a letter or digit at both ends. -/
def isLabelValue (v : String) : Bool :=
  v.toList.isEmpty ||
    (v.toList.length ≤ 63 && v.toList.all isLabelChar &&
      v.toList.head?.any Char.isAlphanum && v.toList.getLast?.any Char.isAlphanum)

/-! ## Syntax of label keys -/

def isDNS1123LabelChar (c : Char) : Bool := c.isLower || c.isDigit || c == '-'

def isDNS1123Label (cs : List Char) : Bool :=
  !cs.isEmpty && cs.all isDNS1123LabelChar && cs.head? != some '-' && cs.getLast? != some '-'

def isDNS1123Subdomain (cs : List Char) : Bool := cs.length ≤ 253 && (cs.splitOn '.').all isDNS1123Label

def isKeyName (cs : List Char) : Bool := !cs.isEmpty && isLabelValue (String.ofList cs)

/-- A label key: a name, with a domain and a slash in front or not. -/
def isLabelKey (k : String) : Bool :=
  match k.toList.splitOn '/' with
  | [n] => isKeyName n
  | [d, n] => isDNS1123Subdomain d && isKeyName n
  | _ => false

/-! ## Selectors -/

inductive Operator where
  | doubleEquals
  | notEquals
  | notIn
  | exists
  | doesNotExist
deriving DecidableEq, Repr

structure Requirement where
  key : String
  op : Operator
  values : List String
deriving DecidableEq, Repr

def Operator.Arity : Operator → Nat → Bool
  | .doubleEquals, n => n = 1
  | .notEquals, n => n = 1
  | .notIn, n => 0 < n
  | .exists, n => n = 0
  | .doesNotExist, n => n = 0

/-- A requirement is made only of the right number of valid label values. -/
def newRequirement (key : String) (op : Operator) (values : List String) : Option Requirement :=
  if op.Arity values.length && values.all isLabelValue then some ⟨key, op, values⟩ else none

namespace Requirement

def Matches (r : Requirement) (ls : Labels) : Bool :=
  match r.op, ls.lookup r.key with
  | .doubleEquals, some v => v ∈ r.values
  | .doubleEquals, none => false
  | .notEquals, some v => v ∉ r.values
  | .notEquals, none => true
  | .notIn, some v => v ∉ r.values
  | .notIn, none => true
  | .exists, v => v.isSome
  | .doesNotExist, v => v.isNone

theorem matches_doubleEquals (k v : String) (ls : Labels) :
    Matches ⟨k, .doubleEquals, [v]⟩ ls ↔ ls.lookup k = some v := by
  cases h : ls.lookup k <;> simp [Matches, h]

theorem matches_doesNotExist (k : String) (ls : Labels) :
    Matches ⟨k, .doesNotExist, []⟩ ls ↔ ls.lookup k = none := by
  cases h : ls.lookup k <;> simp [Matches, h]

end Requirement

/-- Labels match a selector when they match each requirement. -/
abbrev Selector := List Requirement

def Selector.Matches (sel : Selector) (ls : Labels) : Bool := sel.all fun r => r.Matches ls

end Krm.Lib
