import Mathlib.Data.List.Basic
import Mathlib.Data.Nat.Basic

/-! # Command lines, as Go's flag package reads them -/

namespace Krm.Lib

/-! ## Numbers and truth values -/

def parseBool (text : String) : Option Bool :=
  if text ∈ ["1", "t", "T", "TRUE", "true", "True"] then some true
  else if text ∈ ["0", "f", "F", "FALSE", "false", "False"] then some false
  else none

def formatBool (b : Bool) : String := if b then "true" else "false"

namespace Numeral

/-- The base of a number's prefix, and what follows the prefix. -/
def base : List Char → Nat × List Char
  | '0' :: c :: d :: cs =>
    if c.toLower = 'b' then (2, d :: cs)
    else if c.toLower = 'o' then (8, d :: cs)
    else if c.toLower = 'x' then (16, d :: cs)
    else (8, c :: d :: cs)
  | '0' :: cs => (8, cs)
  | cs => (10, cs)

def digit (c : Char) : Option Nat :=
  if c.isDigit then some (c.toNat - '0'.toNat)
  else if c.isAlpha then some (c.toLower.toNat - 'a'.toNat + 10)
  else none

def digits (b : Nat) : List Char → Nat → Option Nat
  | [], n => some n
  | c :: cs, n =>
    if c = '_' then digits b cs n
    else
      match digit c with
      | some d => if d < b then digits b cs (b * n + d) else none
      | none => none

/-- What the check of the underscores saw last. -/
inductive Seen where
  | start
  | digit
  | underscore
  | other
deriving DecidableEq

/-- An underscore has a digit after it, and a digit or the prefix before. -/
def separates (isHex : Bool) : List Char → Seen → Bool
  | [], seen => seen ≠ .underscore
  | c :: cs, seen =>
    if c.isDigit || (isHex && c.toLower ∈ ['a', 'b', 'c', 'd', 'e', 'f']) then separates isHex cs .digit
    else if c = '_' then seen = .digit && separates isHex cs .underscore
    else seen ≠ .underscore && separates isHex cs .other

def underscoreOK : List Char → Bool
  | '0' :: c :: cs =>
    if c.toLower ∈ ['b', 'o', 'x'] then separates (c.toLower = 'x') cs .digit else separates false ('0' :: c :: cs) .start
  | cs => separates false cs .start

def magnitude (text : List Char) : Option Nat :=
  if text.isEmpty then none
  else
    match digits (base text).1 (base text).2 0 with
    | none => none
    | some n => if '_' ∈ (base text).2 ∧ !underscoreOK text then none else some n

end Numeral

def int64Limit : Nat := 9223372036854775808

/-- A number of 64 bits in any base. -/
def parseInt (text : String) : Option Int :=
  match text.toList with
  | '-' :: cs => (Numeral.magnitude cs).bind fun n => if n ≤ int64Limit then some (-n) else none
  | '+' :: cs => (Numeral.magnitude cs).bind fun n => if n < int64Limit then some n else none
  | cs => (Numeral.magnitude cs).bind fun n => if n < int64Limit then some n else none

namespace Numeral

theorem digits_of_isDigit {cs : List Char} (h : ∀ c ∈ cs, c.isDigit) (n : Nat) :
    digits 10 cs n = some (Nat.ofDigitChars 10 cs n) := by
  induction cs generalizing n with
  | nil => rfl
  | cons c cs ih =>
    rw [List.forall_mem_cons] at h
    have hne : c ≠ '_' := by
      rintro rfl
      exact absurd h.1 (by decide)
    have hlt : c.toNat - '0'.toNat < 10 := by
      have hc := Char.isDigit_iff_toNat.1 h.1
      have h0 : '0'.toNat = 48 := rfl
      have h9 : '9'.toNat = 57 := rfl
      omega
    rw [digits, if_neg hne, digit, if_pos h.1]
    dsimp only
    rw [if_pos hlt, ih h.2, Nat.ofDigitChars_cons]

theorem head_toDigits {n : Nat} (h : n ≠ 0) : (Nat.toDigits 10 n).head? ≠ some '0' := by
  induction n using Nat.strong_induction_on with
  | _ n ih =>
    by_cases hlt : n < 10
    · rw [Nat.toDigits_of_lt_base hlt]
      simp only [List.head?_cons, ne_eq, Option.some.injEq, Nat.digitChar_eq_zero]
      exact h
    · rw [Nat.toDigits_of_base_le (by decide) (by omega), List.head?_append]
      cases hhead : (Nat.toDigits 10 (n / 10)).head? with
      | none => exact absurd (List.head?_eq_none_iff.1 hhead) Nat.toDigits_ne_nil
      | some c =>
        rw [Option.some_or, ← hhead]
        exact ih (n / 10) (by omega) (by omega)

theorem base_of_head {cs : List Char} (h : cs.head? ≠ some '0') : base cs = (10, cs) := by
  unfold base
  split
  · exact absurd rfl h
  · exact absurd rfl h
  · rfl

theorem magnitude_toDigits (n : Nat) : magnitude (Nat.toDigits 10 n) = some n := by
  by_cases hzero : n = 0
  · subst hzero
    rfl
  · have hbase := base_of_head (head_toDigits hzero)
    have hdigits : ∀ c ∈ Nat.toDigits 10 n, c.isDigit := fun c hc =>
      Nat.isDigit_of_mem_toDigits (by decide) (by decide) hc
    have hplain : '_' ∉ Nat.toDigits 10 n := fun hmem => absurd (hdigits '_' hmem) (by decide)
    have hne : (Nat.toDigits 10 n).isEmpty = false := by simp
    rw [magnitude, hne, hbase]
    dsimp only
    rw [digits_of_isDigit hdigits, Nat.ofDigitChars_toDigits (by decide) (by decide)]
    simp [hplain]

end Numeral

theorem parseInt_digits (n : Nat) (h : n < int64Limit) : parseInt (toString n) = some (n : Int) := by
  have htext : (toString n).toList = Nat.toDigits 10 n := by
    rw [Nat.toString_eq_ofList_toDigits, String.toList_ofList]
  have hdigits : ∀ c ∈ Nat.toDigits 10 n, c.isDigit := fun c hc =>
    Nat.isDigit_of_mem_toDigits (by decide) (by decide) hc
  unfold parseInt
  rw [htext]
  split
  · rename_i cs hcs
    exact absurd (hdigits '-' (hcs ▸ List.mem_cons_self)) (by decide)
  · rename_i cs hcs
    exact absurd (hdigits '+' (hcs ▸ List.mem_cons_self)) (by decide)
  · rw [Numeral.magnitude_toDigits, Option.bind_some, if_pos h]

theorem parseInt_toString {n : Int} (hlow : -int64Limit ≤ n) (hhigh : n < int64Limit) : parseInt (toString n) = some n := by
  cases n with
  | ofNat n =>
    exact parseInt_digits n (Int.ofNat_lt.1 hhigh)
  | negSucc n =>
    have htext : (toString (Int.negSucc n)).toList = '-' :: Nat.toDigits 10 (n + 1) := by
      have hminus : "-".toList = ['-'] := rfl
      rw [show toString (Int.negSucc n) = "-" ++ toString (n + 1) from rfl, String.toList_append,
        hminus, Nat.toString_eq_ofList_toDigits, String.toList_ofList, List.singleton_append]
    have hlow : n + 1 ≤ int64Limit := by
      rw [Int.negSucc_eq] at hlow
      omega
    unfold parseInt
    rw [htext]
    simp only [Numeral.magnitude_toDigits, Option.bind_some, if_pos hlow]
    rfl

theorem parseBool_formatBool (b : Bool) : parseBool (formatBool b) = some b := by
  cases b <;> decide

/-! ## Flags -/

/-- Whether a flag can stand without a value, and what a value does. -/
structure Flag (γ : Type) where
  isBool : Bool
  set : String → γ → Option γ

section Flags

variable {γ : Type}

/-- A variable that a flag is bound to. -/
structure Var (γ α : Type) where
  get : γ → α
  set : α → γ → γ
  set_get : ∀ g, set (get g) g = g := by intro _; rfl

def boolVar (v : Var γ Bool) : Flag γ := ⟨true, fun text g => (parseBool text).map (v.set · g)⟩

def intVar (v : Var γ Int) : Flag γ := ⟨false, fun text g => (parseInt text).map (v.set · g)⟩

def stringVar (v : Var γ String) : Flag γ := ⟨false, fun text g => some (v.set text g)⟩

/-- What a word of the command line is. -/
inductive Word where
  | operand
  | terminator
  | bad
  | flag (name : String) (value : Option String)
deriving DecidableEq, Repr

def flagWord : List Char → Word
  | [] => .bad
  | c :: cs =>
    if c = '-' ∨ c = '=' then .bad
    else if '=' ∈ cs then
      .flag (String.ofList (c :: cs.takeWhile (· ≠ '='))) (some (String.ofList (cs.dropWhile (· ≠ '=')).tail))
    else .flag (String.ofList (c :: cs)) none

def word (text : String) : Word :=
  match text.toList with
  | ['-', '-'] => .terminator
  | '-' :: '-' :: cs => flagWord cs
  | '-' :: c :: cs => flagWord (c :: cs)
  | _ => .operand

inductive FlagError where
  | badSyntax (word : String)
  | help
  | notDefined (name : String)
  | needsArgument (name : String)
  | invalidValue (name value : String)
deriving DecidableEq, Repr

variable (formal : List (String × Flag γ))

/-- The settings, and the operands that are left. -/
def parse : List String → γ → Except FlagError (γ × List String)
  | [], g => .ok (g, [])
  | text :: args, g =>
    match word text with
    | .operand => .ok (g, text :: args)
    | .terminator => .ok (g, args)
    | .bad => .error (.badSyntax text)
    | .flag name value =>
      match formal.lookup name with
      | none => .error (if name = "help" ∨ name = "h" then .help else .notDefined name)
      | some flag =>
        if flag.isBool then
          match flag.set (value.getD "true") g with
          | some g' => parse args g'
          | none => .error (.invalidValue name (value.getD "true"))
        else
          match value, args with
          | some v, args =>
            match flag.set v g with
            | some g' => parse args g'
            | none => .error (.invalidValue name v)
          | none, v :: args =>
            match flag.set v g with
            | some g' => parse args g'
            | none => .error (.invalidValue name v)
          | none, [] => .error (.needsArgument name)

/-- Flags that take the settings from `g` to `g'` whatever follows. -/
def Consumes (args : List String) (g g' : γ) : Prop := ∀ rest, parse formal (args ++ rest) g = parse formal rest g'

variable {formal} {args args' : List String} {g g' g'' : γ} {text name : String}

theorem Consumes.nil (g : γ) : Consumes formal [] g g := fun _ => rfl

theorem Consumes.append (h : Consumes formal args g g') (h' : Consumes formal args' g' g'') :
    Consumes formal (args ++ args') g g'' := by
  intro rest
  rw [List.append_assoc, h, h']

theorem Consumes.to (h : Consumes formal args g g') (heq : g' = g'') : Consumes formal args g g'' := heq ▸ h

theorem Consumes.string {v : Var γ String} {value : String} (hword : word text = .flag name none)
    (hflag : formal.lookup name = some (stringVar v)) (h : Consumes formal args (v.set value g) g') :
    Consumes formal (text :: value :: args) g g' := by
  intro rest
  rw [List.cons_append, parse, hword]
  dsimp only
  rw [hflag]
  exact h rest

theorem Consumes.int {v : Var γ Int} {n : Int} (hword : word text = .flag name none)
    (hflag : formal.lookup name = some (intVar v)) (hlow : -int64Limit ≤ n) (hhigh : n < int64Limit)
    (h : Consumes formal args (v.set n g) g') : Consumes formal (text :: toString n :: args) g g' := by
  intro rest
  rw [List.cons_append, parse, hword]
  dsimp only
  rw [hflag]
  simp only [intVar, List.cons_append, parseInt_toString hlow hhigh]
  exact h rest

theorem Consumes.switch {v : Var γ Bool} (hword : word text = .flag name none)
    (hflag : formal.lookup name = some (boolVar v)) (h : Consumes formal args (v.set true g) g') :
    Consumes formal (text :: args) g g' := by
  intro rest
  rw [List.cons_append, parse, hword]
  dsimp only
  rw [hflag]
  exact h rest

theorem Consumes.bool {v : Var γ Bool} {b : Bool} (hword : word text = .flag name (some (formatBool b)))
    (hflag : formal.lookup name = some (boolVar v)) (h : Consumes formal args (v.set b g) g') :
    Consumes formal (text :: args) g g' := by
  intro rest
  rw [List.cons_append, parse, hword]
  dsimp only
  rw [hflag]
  simp only [boolVar, if_true, Option.getD_some, parseBool_formatBool]
  exact h rest

theorem Consumes.int32 {v : Var γ Int} {n : Int32} (hword : word text = .flag name none)
    (hflag : formal.lookup name = some (intVar v)) (h : Consumes formal args (v.set n.toInt g) g') :
    Consumes formal (text :: toString n.toInt :: args) g g' := by
  have hlow := n.le_toInt
  have hhigh := n.toInt_lt
  refine .int hword hflag ?_ ?_ h
  · rw [int64Limit]
    omega
  · rw [int64Limit]
    omega

theorem Consumes.int64 {v : Var γ Int} {n : Int64} (hword : word text = .flag name none)
    (hflag : formal.lookup name = some (intVar v)) (h : Consumes formal args (v.set n.toInt g) g') :
    Consumes formal (text :: toString n.toInt :: args) g g' :=
  .int hword hflag n.le_toInt n.toInt_lt h

end Flags

end Krm.Lib
