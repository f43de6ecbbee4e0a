import Mathlib.Algebra.Group.Nat.Defs
import Mathlib.Data.List.Basic
import Mathlib.Data.List.Induction
import Scaffold.Text.Case
import Scaffold.Text.Digit
/-!
# Proofs.Text.Numeral — digits and the numbers they write

A number is read back from its numeral (`natOfDigits_numeral`).  The other way, digits are read back from the number
that they write: in a known width always (`fixed_natOfDigits`), and without one if no zero leads
(`numeral_natOfDigits`).
-/
namespace Scaffold
namespace Text

theorem digitValue?_digitChar : ∀ d < 10, digitValue? (Nat.digitChar d) = some d := by decide

theorem isDigitAscii_digitChar : ∀ d < 10, isDigitAscii (Nat.digitChar d) = true := by decide

theorem exists_digitChar_of_isDigitAscii {c : Char} (h : isDigitAscii c = true) : ∃ d < 10, c = Nat.digitChar d := by
  have hall : ∀ d < 10, Char.ofNat (48 + d) = Nat.digitChar d := by decide
  simp only [isDigitAscii, Bool.and_eq_true, decide_eq_true_eq] at h
  refine ⟨c.toNat - 48, by omega, ?_⟩
  rw [← hall _ (by omega), Nat.add_sub_cancel' h.1, Char.ofNat_toNat]

theorem isDecimal_of_isDigitAscii {c : Char} (h : isDigitAscii c = true) : isDecimal c = true := by
  obtain ⟨d, hd, rfl⟩ := exists_digitChar_of_isDigitAscii h
  rw [isDecimal, digitValue?_digitChar d hd, Option.isSome_some]

theorem natOfDigits_concat (l : List Char) (c : Char) :
    natOfDigits (l ++ [c]) = 10 * natOfDigits l + (digitValue? c).getD 0 := by
  rw [natOfDigits, List.foldl_append]
  rfl

theorem natOfDigits_concat_digitChar (l : List Char) {d : Nat} (hd : d < 10) :
    natOfDigits (l ++ [Nat.digitChar d]) = 10 * natOfDigits l + d := by
  rw [natOfDigits_concat, digitValue?_digitChar d hd]
  rfl

/-! ## Numerals -/

theorem numeral_of_lt {n : Nat} (h : n < 10) : numeral n = [Nat.digitChar n] := by
  rw [numeral, Nat.toDigits_eq_if (by decide), if_pos h]

theorem numeral_of_le {n : Nat} (h : 10 ≤ n) : numeral n = numeral (n / 10) ++ [Nat.digitChar (n % 10)] := by
  rw [numeral, Nat.toDigits_eq_if (by decide), if_neg (Nat.not_lt.2 h)]
  rfl

theorem numeral_concat {n d : Nat} (hn : n ≠ 0) (hd : d < 10) :
    numeral (10 * n + d) = numeral n ++ [Nat.digitChar d] := by
  rw [numeral_of_le (by omega), show (10 * n + d) / 10 = n by omega, show (10 * n + d) % 10 = d by omega]

theorem natOfDigits_numeral (n : Nat) : natOfDigits (numeral n) = n := by
  induction n using Nat.strongRecOn with
  | ind n ih =>
    by_cases h : n < 10
    · rw [numeral_of_lt h]
      exact (natOfDigits_concat_digitChar [] h).trans (Nat.zero_add n)
    · rw [numeral_of_le (by omega), natOfDigits_concat_digitChar _ (by omega), ih (n / 10) (by omega)]
      omega

/-- The text is a numeral without a zero too many. -/
structure IsNumeral (l : List Char) : Prop where
  ne_nil : l ≠ []
  digits : ∀ c ∈ l, isDigitAscii c = true
  lead : l.head? = some '0' → l = ['0']

theorem isNumeral_numeral (n : Nat) : IsNumeral (numeral n) := by
  induction n using Nat.strongRecOn with
  | ind n ih =>
    by_cases h : n < 10
    · rw [numeral_of_lt h]
      refine ⟨List.cons_ne_nil _ _, List.forall_mem_singleton.2 (isDigitAscii_digitChar n h), fun hzero => ?_⟩
      rw [Option.some.inj hzero]
    · have hrest := ih (n / 10) (by omega)
      rw [numeral_of_le (by omega)]
      refine ⟨by simp, fun c hc => ?_, fun hzero => ?_⟩
      · rcases List.mem_append.1 hc with hc | hc
        · exact hrest.digits c hc
        · rw [List.mem_singleton.1 hc]
          exact isDigitAscii_digitChar _ (by omega)
      · -- no zero leads the digits before the last, since these write a positive number
        rw [List.head?_append_of_ne_nil _ hrest.ne_nil] at hzero
        have hvalue := natOfDigits_numeral (n / 10)
        rw [hrest.lead hzero] at hvalue
        have hnone : natOfDigits ['0'] = 0 := by decide
        omega

/-- **A numeral without a zero too many is that of the number it writes.** -/
theorem numeral_natOfDigits {l : List Char} (h : IsNumeral l) : numeral (natOfDigits l) = l := by
  induction l using List.reverseRecOn with
  | nil => exact absurd rfl h.ne_nil
  | append_singleton l c ih =>
    obtain ⟨d, hd, rfl⟩ := exists_digitChar_of_isDigitAscii (h.digits c (by simp))
    rw [natOfDigits_concat_digitChar l hd]
    by_cases hnil : l = []
    · rw [hnil]
      exact (congrArg numeral (Nat.zero_add d)).trans (numeral_of_lt hd)
    · have hlead : l.head? ≠ some '0' := fun hzero => by
        have hone := h.lead (by rw [List.head?_append_of_ne_nil _ hnil, hzero])
        exact hnil (by simpa using congrArg List.length hone)
      have hfront : IsNumeral l := ⟨hnil, fun c hc => h.digits c (by simp [hc]), fun hzero => absurd hzero hlead⟩
      have hpositive : natOfDigits l ≠ 0 := fun hzero => by
        have hl := ih hfront
        rw [hzero] at hl
        exact hlead (by rw [← hl]; rfl)
      rw [numeral_concat hpositive hd, ih hfront]

/-! ## Fixed width -/

def fixed : Nat → Nat → List Char
  | 0, _ => []
  | width + 1, n => fixed width (n / 10) ++ [Nat.digitChar (n % 10)]

theorem isDigitAscii_of_mem_fixed {c : Char} : ∀ {width n : Nat}, c ∈ fixed width n → isDigitAscii c = true
  | width + 1, n, h => by
    rcases List.mem_append.1 h with h | h
    · exact isDigitAscii_of_mem_fixed h
    · rw [List.mem_singleton.1 h]
      exact isDigitAscii_digitChar _ (Nat.mod_lt _ (by decide))

theorem fixed_natOfDigits {l : List Char} (h : ∀ c ∈ l, isDigitAscii c = true) :
    fixed l.length (natOfDigits l) = l := by
  induction l using List.reverseRecOn with
  | nil => rfl
  | append_singleton l c ih =>
    obtain ⟨d, hd, rfl⟩ := exists_digitChar_of_isDigitAscii (h c (by simp))
    rw [List.length_append, List.length_singleton, natOfDigits_concat_digitChar l hd, fixed,
      show (10 * natOfDigits l + d) / 10 = natOfDigits l by omega, show (10 * natOfDigits l + d) % 10 = d by omega,
      ih (fun c hc => h c (by simp [hc]))]

theorem natOfDigits_fixed : ∀ {width n : Nat}, n < 10 ^ width → natOfDigits (fixed width n) = n
  | 0, n, h => (Nat.lt_one_iff.1 h).symm
  | width + 1, n, h => by
    have hrest : n / 10 < 10 ^ width := by
      rw [Nat.pow_succ] at h
      omega
    rw [fixed, natOfDigits_concat_digitChar _ (by omega), natOfDigits_fixed hrest]
    omega

theorem digitValue?_lt (c : Char) : (digitValue? c).getD 0 < 10 := by
  unfold digitValue?
  cases decimals.find? c.toNat with
  | none => exact Nat.succ_pos 9
  | some r => exact Nat.mod_lt _ (by decide)

theorem natOfDigits_lt (l : List Char) : natOfDigits l < 10 ^ l.length := by
  induction l using List.reverseRecOn with
  | nil => decide
  | append_singleton l c ih =>
    have hlast := digitValue?_lt c
    rw [List.length_append, List.length_singleton, natOfDigits_concat, Nat.pow_succ]
    omega

theorem length_numeral_natOfDigits_le {l : List Char} (h : l ≠ []) : (numeral (natOfDigits l)).length ≤ l.length :=
  (Nat.length_toDigits_le_iff (by decide) (List.length_pos_iff.2 h)).2 (natOfDigits_lt l)

end Text
end Scaffold
