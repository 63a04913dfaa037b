import Krm.Lib.Labels
import Mathlib.Data.List.Chain

/-! # Domain names cut off and continued

A domain name is read from one character to the next: a dot stands between two letters or digits, and the ends of the
name count as dots. -/

namespace Krm.Lib

def isLowerAlphanum (c : Char) : Bool := c.isLower || c.isDigit

/-- What may stand next to what in a domain name with a dot at each end. -/
def Adjacent (a b : Char) : Prop :=
  (a = '.' → isLowerAlphanum b = true) ∧ (b = '.' → isLowerAlphanum a = true) ∧
    (b ≠ '.' → isDNS1123LabelChar b = true)

theorem isDNS1123LabelChar_of_alphanum {c : Char} (h : isLowerAlphanum c = true) : isDNS1123LabelChar c = true := by
  simp only [isLowerAlphanum, Bool.or_eq_true] at h
  simp [isDNS1123LabelChar, h]

theorem isLowerAlphanum_iff (c : Char) : isLowerAlphanum c = true ↔ isDNS1123LabelChar c = true ∧ c ≠ '-' := by
  constructor
  · intro h
    refine ⟨isDNS1123LabelChar_of_alphanum h, ?_⟩
    rintro rfl
    exact absurd h (by decide)
  · rintro ⟨h, hdash⟩
    simpa [isDNS1123LabelChar, isLowerAlphanum, hdash] using h

theorem dot_not_labelChar : isDNS1123LabelChar '.' = false := by decide

theorem ne_dot_of_labelChar {c : Char} (h : isDNS1123LabelChar c = true) : c ≠ '.' := by
  rintro rfl
  rw [dot_not_labelChar] at h
  exact Bool.false_ne_true h

theorem isChain_label {a : Char} (ha : isDNS1123LabelChar a = true) {l : List Char} (hdot : '.' ∉ l) :
    List.IsChain Adjacent (a :: (l ++ ['.'])) ↔
      (∀ c ∈ l, isDNS1123LabelChar c = true) ∧ (a :: l).getLast? ≠ some '-' := by
  induction l generalizing a with
  | nil =>
    have : Adjacent a '.' ↔ a ≠ '-' := by
      simp [Adjacent, ne_dot_of_labelChar ha, isLowerAlphanum_iff, ha]
    simpa using this
  | cons b l ih =>
    have hb : b ≠ '.' := fun h => hdot (by simp [h])
    have hl : '.' ∉ l := fun h => hdot (List.mem_cons_of_mem b h)
    have hab : Adjacent a b ↔ isDNS1123LabelChar b = true := by
      simp [Adjacent, ne_dot_of_labelChar ha, hb]
    rw [List.cons_append, List.isChain_cons_cons, hab, List.forall_mem_cons, List.getLast?_cons_cons, and_assoc]
    exact and_congr_right fun hchar => ih hchar hl

theorem isChain_isDNS1123Label {l : List Char} (hdot : '.' ∉ l) :
    List.IsChain Adjacent ('.' :: (l ++ ['.'])) ↔ isDNS1123Label l = true := by
  cases l with
  | nil =>
    have hends : isLowerAlphanum '.' = false := by decide
    simp [Adjacent, isDNS1123Label, hends]
  | cons b l =>
    have hb : b ≠ '.' := fun h => hdot (by simp [h])
    have hl : '.' ∉ l := fun h => hdot (List.mem_cons_of_mem b h)
    have hfirst : Adjacent '.' b ↔ isDNS1123LabelChar b = true ∧ b ≠ '-' := by
      simp only [Adjacent, hb, isLowerAlphanum_iff, ne_eq, forall_const, false_implies, not_false_eq_true, true_and]
      exact ⟨And.left, fun h => ⟨h, h.1⟩⟩
    rw [List.cons_append, List.isChain_cons_cons, hfirst, isDNS1123Label]
    constructor
    · rintro ⟨⟨hchar, hdash⟩, hchain⟩
      obtain ⟨hall, hlast⟩ := (isChain_label hchar hl).1 hchain
      simpa [hchar, hdash, hlast] using hall
    · intro h
      simp only [List.isEmpty_cons, Bool.not_false, List.all_cons, Bool.true_and, Bool.and_eq_true, List.all_eq_true,
        List.head?_cons, bne_iff_ne, ne_eq, Option.some.injEq] at h
      obtain ⟨⟨⟨hchar, hall⟩, hdash⟩, hlast⟩ := h
      exact ⟨⟨hchar, hdash⟩, (isChain_label hchar hl).2 ⟨hall, hlast⟩⟩

theorem isChain_labels (cs : List Char) :
    List.IsChain Adjacent ('.' :: (cs ++ ['.'])) ↔ (cs.splitOn '.').all isDNS1123Label = true := by
  -- on the length: a dot cuts the name into two shorter ones
  induction hn : cs.length using Nat.strong_induction_on generalizing cs with
  | _ n ih =>
    by_cases hdot : '.' ∈ cs
    · obtain ⟨l, r, rfl⟩ := List.append_of_mem hdot
      simp only [List.length_append, List.length_cons] at hn
      rw [List.splitOn_append_cons_self, List.all_append, Bool.and_eq_true, List.append_assoc, List.cons_append,
        List.isChain_cons_split, ih l.length (by omega) l rfl, ih r.length (by omega) r rfl]
    · rw [List.splitOn_eq_singleton hdot, isChain_isDNS1123Label hdot]
      simp

theorem isDNS1123Subdomain_iff (cs : List Char) :
    isDNS1123Subdomain cs = true ↔ cs.length ≤ 253 ∧ List.IsChain Adjacent ('.' :: (cs ++ ['.'])) := by
  rw [isDNS1123Subdomain, Bool.and_eq_true, isChain_labels, decide_eq_true_iff]

/-! ## Cutting and continuing -/

theorem subdomain_head {cs : List Char} (h : isDNS1123Subdomain cs = true) : cs ≠ [] := by
  rintro rfl
  exact absurd h (by decide)

theorem subdomain_getLast {cs : List Char} (h : isDNS1123Subdomain cs = true) : cs.getLast? ≠ some '.' := by
  intro hlast
  obtain ⟨l, rfl⟩ := List.getLast?_eq_some_iff.1 hlast
  have hchain := ((isDNS1123Subdomain_iff _).1 h).2
  rw [List.append_assoc, List.cons_append, List.nil_append, List.isChain_cons_append_cons_cons] at hchain
  exact absurd (hchain.2.1.1 rfl) (by decide)

theorem isChain_alphanums {suffix : List Char} (hsuffix : ∀ c ∈ suffix, isLowerAlphanum c = true) (hne : suffix ≠ []) :
    List.IsChain Adjacent ('-' :: (suffix ++ ['.'])) := by
  have hdot : '.' ∉ suffix := fun h => absurd (hsuffix _ h) (by decide)
  refine (isChain_label (by decide) hdot).2 ⟨fun c hc => isDNS1123LabelChar_of_alphanum (hsuffix c hc), ?_⟩
  intro hlast
  rw [List.getLast?_cons_of_ne_nil hne] at hlast
  exact absurd (hsuffix _ (List.mem_of_getLast? hlast)) (by decide)

/-- A domain name may be cut and get a dash anywhere but behind a dot. -/
theorem subdomain_cut {cs suffix : List Char} {n : Nat} (h : isDNS1123Subdomain cs = true) (hn : 0 < n)
    (hsuffix : ∀ c ∈ suffix, isLowerAlphanum c = true) (hne : suffix ≠ []) (hlen : n + suffix.length < 253) :
    isDNS1123Subdomain (cs.take n ++ '-' :: suffix) = true ↔ (cs.take n).getLast? ≠ some '.' := by
  have hchain := ((isDNS1123Subdomain_iff cs).1 h).2
  have hcut : List.IsChain Adjacent ('.' :: cs.take n) := by
    have := hchain.take (n + 1)
    rw [List.take_succ_cons, List.take_append] at this
    exact (List.isChain_append.1 (by simpa using this : List.IsChain Adjacent (('.' :: cs.take n) ++ _))).1
  have hlength : (cs.take n ++ '-' :: suffix).length ≤ 253 := by
    simp only [List.length_append, List.length_take, List.length_cons]
    omega
  rw [isDNS1123Subdomain_iff, and_iff_right hlength, List.append_assoc, List.cons_append, ← List.cons_append,
    List.isChain_append, and_iff_right hcut, and_iff_right (isChain_alphanums hsuffix hne)]
  obtain ⟨c, hc⟩ : ∃ c, (cs.take n).getLast? = some c := by
    rw [← Option.isSome_iff_exists, List.getLast?_isSome]
    exact fun hnil => subdomain_head h (by simpa [hn.ne'] using hnil)
  have hlast : ('.' :: cs.take n).getLast? = some c := by
    rw [List.getLast?_cons_of_ne_nil (List.ne_nil_of_mem (List.mem_of_getLast? hc)), hc]
  simp only [hlast, hc, List.head?_cons, Option.mem_def, Option.some.injEq, forall_eq']
  simp [Adjacent, isLowerAlphanum, isDNS1123LabelChar]

/-! ## Bytes -/

theorem Adjacent.chars {a : Char} {cs : List Char} (h : List.IsChain Adjacent (a :: cs)) :
    ∀ c ∈ cs, c = '.' ∨ isDNS1123LabelChar c = true := by
  induction cs generalizing a with
  | nil => exact List.forall_mem_nil _
  | cons b cs ih =>
    rw [List.isChain_cons_cons] at h
    refine List.forall_mem_cons.2 ⟨?_, ih h.2⟩
    by_cases hb : b = '.'
    · exact .inl hb
    · exact .inr (h.1.2.2 hb)

theorem ascii_of_labelChar {c : Char} (h : isDNS1123LabelChar c = true) : c.utf8Size = 1 := by
  rw [Char.utf8Size_eq_one_iff]
  simp only [isDNS1123LabelChar, Bool.or_eq_true, beq_iff_eq] at h
  rcases h with (hlower | hdigit) | rfl
  · have hle : c.val ≤ 'z'.val := of_decide_eq_true (Bool.and_eq_true_iff.1 hlower).2
    exact UInt32.le_trans hle (by decide)
  · have hle : c.val ≤ '9'.val := of_decide_eq_true (Bool.and_eq_true_iff.1 hdigit).2
    exact UInt32.le_trans hle (by decide)
  · decide

theorem subdomain_ascii {cs : List Char} (h : isDNS1123Subdomain cs = true) : ∀ c ∈ cs, c.utf8Size = 1 := by
  intro c hc
  rcases Adjacent.chars ((isDNS1123Subdomain_iff cs).1 h).2 c (List.mem_append_left _ hc) with rfl | hlabel
  · rfl
  · exact ascii_of_labelChar hlabel

theorem utf8ByteSize_of_ascii {cs : List Char} (h : ∀ c ∈ cs, c.utf8Size = 1) :
    (String.ofList cs).utf8ByteSize = cs.length := by
  induction cs with
  | nil => rfl
  | cons c cs ih =>
    rw [List.forall_mem_cons] at h
    rw [String.ofList_cons, String.utf8ByteSize_append, String.utf8ByteSize_singleton, ih h.2, h.1, List.length_cons,
      Nat.add_comm]

end Krm.Lib
