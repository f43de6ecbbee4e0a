import Scaffold.Proofs.Schema.Default
import Scaffold.Proofs.Text.Numeral
/-!
# Proofs.Schema.Spelling — how numbers and dates are spelled as defaults

A number may be spelled with a plus, with zeros in front, with white space around it and in the digits of any script; a
date only with white space around it, and it is a date of the calendar (`date_text`).  If the spelling has none of that,
what the default stands for is written in the same way (`written_cases`).
-/
namespace Scaffold

open Text

namespace Text

theorem trim_eq_self {l : List Char} (h : ∀ c ∈ l, isBlank c = false) : trim l = l := by
  have hdrop : ∀ r : List Char, (∀ c ∈ r, isBlank c = false) → r.dropWhile isBlank = r := fun r hr => by
    cases r with
    | nil => rfl
    | cons c r => rw [List.dropWhile_cons_of_neg (by simp [hr c])]
  rw [trim, trimLeft, hdrop l h, trimRight, hdrop _ (fun c hc => h c (List.mem_reverse.1 hc)), List.reverse_reverse]

def IsNumerical (c : Char) : Prop := c = '-' ∨ isDigitAscii c = true

theorem IsNumerical.ink {c : Char} (h : IsNumerical c) : isBlank c = false := by
  rcases h with rfl | h
  · decide
  · exact Naming.isBlank_of_part (by simp [Naming.isIdentifierPart, h])

theorem replacement_not_mem {l : List Char} (h : ∀ c ∈ l, IsNumerical c) : replacement ∉ l := fun hmem => by
  rcases h _ hmem with hdash | hdigit
  · cases hdash
  · cases hdigit

def IsIntNumeral (l : List Char) : Prop := IsNumeral l ∨ ∃ digits, l = '-' :: digits ∧ IsNumeral digits ∧ digits ≠ ['0']

theorem isIntNumeral_intNumeral : ∀ n : Int, IsIntNumeral (intNumeral n)
  | .ofNat n => .inl (isNumeral_numeral n)
  | .negSucc n => by
    refine .inr ⟨numeral (n + 1), rfl, isNumeral_numeral _, fun hzero => ?_⟩
    have hvalue := natOfDigits_numeral (n + 1)
    have hnone : natOfDigits ['0'] = 0 := by decide
    rw [hzero, hnone] at hvalue
    exact Nat.succ_ne_zero n hvalue.symm

theorem IsIntNumeral.numerical {l : List Char} (h : IsIntNumeral l) : ∀ c ∈ l, IsNumerical c := by
  rcases h with h | ⟨digits, rfl, h, -⟩
  · exact fun c hc => .inr (h.digits c hc)
  · exact List.forall_mem_cons.2 ⟨.inl rfl, fun c hc => .inr (h.digits c hc)⟩

theorem signed_of_isDecimal {l : List Char} (h : ∀ c ∈ l, isDecimal c = true) : signed l = (false, l) := by
  unfold signed
  split
  · cases h '-' List.mem_cons_self
  · cases h '+' List.mem_cons_self
  · rfl

theorem IsNumeral.signed_eq {l : List Char} (h : IsNumeral l) : signed l = (false, l) :=
  signed_of_isDecimal (fun c hc => isDecimal_of_isDigitAscii (h.digits c hc))

end Text

namespace Wording

theorem eq_ofList_iff_of_not_mem {v : Wording} {l : List Char} (h : replacement ∉ l) :
    v = String.ofList l ↔ v.shown.toList = l := by
  constructor
  · rintro rfl
    rw [shown_ofText, String.toList_ofList]
  · rintro rfl
    rw [String.ofList_toList]
    exact (ofText_shown (isWhole_of_not_mem h)).symm

theorem eq_ofList_iff {v : Wording} {l : List Char} (h : ∀ c ∈ l, IsNumerical c) :
    v = String.ofList l ↔ v.shown.toList = l :=
  eq_ofList_iff_of_not_mem (replacement_not_mem h)

end Wording

namespace Default

/-! ## Numbers -/

theorem number_eq_ok {v : Wording} {value : DefaultValue} (h : number v = .ok value) :
    let spelled := signed (trim v.shown.toList)
    value = .number (if spelled.1 then -(natOfDigits spelled.2 : Int) else natOfDigits spelled.2) := by
  unfold number at h
  dsimp only at h ⊢
  split at h
  · cases h
  · split at h
    · cases h
    · exact (Except.ok.inj h).symm

theorem shown_eq_intNumeral_iff {v : Wording} {n : Int} (h : number v = .ok (.number n)) :
    v.shown.toList = intNumeral n ↔ IsIntNumeral v.shown.toList := by
  refine ⟨fun heq => heq ▸ isIntNumeral_intNumeral n, fun hv => ?_⟩
  have hn := number_eq_ok h
  rw [trim_eq_self (fun c hc => (hv.numerical c hc).ink)] at hn
  rcases hv with hplain | ⟨digits, hl, hdigits, hne⟩
  · rw [hplain.signed_eq] at hn
    rw [DefaultValue.number.inj hn]
    exact (numeral_natOfDigits hplain).symm
  · rw [hl] at hn ⊢
    have hpositive : natOfDigits digits ≠ 0 := fun hzero => by
      have hdigits := numeral_natOfDigits hdigits
      rw [hzero] at hdigits
      exact hne hdigits.symm
    obtain ⟨m, hm⟩ := Nat.exists_eq_succ_of_ne_zero hpositive
    have hvalue : n = Int.negSucc m := by
      rw [DefaultValue.number.inj hn]
      show -(natOfDigits digits : Int) = Int.negSucc m
      rw [hm]
      rfl
    rw [hvalue, ← numeral_natOfDigits hdigits, hm]
    rfl

/-! ## Dates -/

namespace Calendar

/-- **A date of the calendar**, with a year of at most four digits. -/
structure IsDate (y m d : Nat) : Prop where
  year : 1 ≤ y ∧ y ≤ 9999
  month : 1 ≤ m ∧ m ≤ 12
  day : 1 ≤ d ∧ d ≤ 31
  thirty : m = 4 ∨ m = 6 ∨ m = 9 ∨ m = 11 → d ≤ 30
  february : m = 2 → d ≤ 29
  leap : m = 2 → d = 29 → 4 ∣ y ∧ (100 ∣ y → 400 ∣ y)

theorem isLeap_iff (y : Nat) : isLeap y = true ↔ 4 ∣ y ∧ (100 ∣ y → 400 ∣ y) := by
  simp only [isLeap, Bool.and_eq_true, Bool.or_eq_true, beq_iff_eq, bne_iff_ne]
  omega

theorem le_daysIn_iff {y m d : Nat} : d ≤ daysIn y m ↔ d ≤ 31 ∧ (m = 4 ∨ m = 6 ∨ m = 9 ∨ m = 11 → d ≤ 30) ∧
    (m = 2 → d ≤ 29) ∧ (m = 2 → d = 29 → isLeap y = true) := by
  unfold daysIn
  cases isLeap y <;> grind

theorem fault?_eq_none_iff {y m d : Nat} (hy : y ≤ 9999) : fault? y m d = none ↔ IsDate y m d := by
  have hnone : fault? y m d = none ↔ y ≠ 0 ∧ (1 ≤ m ∧ m ≤ 12) ∧ 1 ≤ d ∧ d ≤ daysIn y m := by
    unfold fault?
    split_ifs <;> simp <;> omega
  rw [hnone, le_daysIn_iff, isLeap_iff]
  constructor
  · rintro ⟨hyear, hmonth, hday, hlast, hthirty, hfebruary, hleap⟩
    exact ⟨⟨by omega, hy⟩, hmonth, ⟨hday, hlast⟩, hthirty, hfebruary, hleap⟩
  · intro h
    exact ⟨by have := h.year; omega, h.month, h.day.1, h.day.2, h.thirty, h.february, h.leap⟩

def iso (year month day : Nat) : List Char := fixed 4 year ++ '-' :: (fixed 2 month ++ '-' :: fixed 2 day)

theorem iso_natOfDigits {year month day : List Char} (hyear : year.length = 4) (hmonth : month.length = 2)
    (hday : day.length = 2) (h : ∀ c ∈ year ++ month ++ day, isDigitAscii c = true) :
    iso (natOfDigits year) (natOfDigits month) (natOfDigits day) = year ++ '-' :: (month ++ '-' :: day) := by
  have hread : ∀ part : List Char, part ⊆ year ++ month ++ day → fixed part.length (natOfDigits part) = part :=
    fun part hpart => fixed_natOfDigits (fun c hc => h c (hpart hc))
  rw [iso, ← hyear, ← hmonth, hread year (by simp), hread month (by simp), hmonth, ← hday, hread day (by simp)]

theorem numerical_iso (year month day : Nat) : ∀ c ∈ iso year month day, IsNumerical c := by
  intro c hc
  simp only [iso, List.mem_append, List.mem_cons] at hc
  rcases hc with hc | rfl | hc | rfl | hc
  · exact .inr (isDigitAscii_of_mem_fixed hc)
  · exact .inl rfl
  · exact .inr (isDigitAscii_of_mem_fixed hc)
  · exact .inl rfl
  · exact .inr (isDigitAscii_of_mem_fixed hc)

end Calendar

theorem lengths_of_dateParts? {l year month day : List Char} (h : dateParts? l = some (year, month, day)) :
    year.length = 4 ∧ month.length = 2 ∧ day.length = 2 := by
  unfold dateParts? at h
  split at h
  · split at h
    · simp only [Option.some.injEq, Prod.mk.injEq] at h
      obtain ⟨rfl, rfl, rfl⟩ := h
      exact ⟨rfl, rfl, rfl⟩
    · cases h
  · cases h

/-- **A date that is read is one of the calendar**, and given back without the white space around it. -/
theorem date_text {v : Wording} {value : DefaultValue} (h : date v = .ok value) : ∃ y m d,
    Calendar.IsDate y m d ∧ trim v.shown.toList = Calendar.iso y m d ∧
      value = .text (String.ofList (Calendar.iso y m d)) := by
  unfold date at h
  dsimp only at h
  split at h
  · cases h
  · rename_i year month day hparts
    obtain ⟨hyear, hmonth, hday⟩ := lengths_of_dateParts? hparts
    split at h
    · cases h
    · rename_i hdigits
      rw [Bool.not_eq_true', Bool.not_eq_false, List.all_eq_true] at hdigits
      have hiso := Calendar.iso_natOfDigits hyear hmonth hday hdigits
      have htrim := eq_of_dateParts? hparts
      have hbound : natOfDigits year ≤ 9999 := by
        have hlt := natOfDigits_lt year
        rw [hyear] at hlt
        omega
      split at h
      · cases h
      · rename_i hfault
        rw [htrim, ← hiso] at h
        exact ⟨_, _, _, (Calendar.fault?_eq_none_iff hbound).1 hfault, htrim.trans hiso.symm, (Except.ok.inj h).symm⟩

/-! ## Spelling -/

theorem boolean_eq_ok {v : Wording} {value : DefaultValue} (h : boolean v = .ok value) : ∃ b, value = .flag b := by
  unfold boolean at h
  dsimp only at h
  split at h
  · exact ⟨true, (Except.ok.inj h).symm⟩
  · split at h
    · exact ⟨false, (Except.ok.inj h).symm⟩
    · cases h

theorem eq_text_of_coerce {type : FieldType} (htype : type = .string ∨ type = .email ∨ type = .text) {v : Wording}
    {value : DefaultValue} (h : coerce type v = .ok value) :
    value = .text v ∧ (type = .string → v.length ≤ maxLength) := by
  rcases htype with rfl | rfl | rfl
  · simp only [coerce] at h
    split at h
    · cases h
    · rename_i hlength
      exact ⟨(Except.ok.inj h).symm, fun _ => Nat.not_lt.1 hlength⟩
  · simp only [coerce] at h
    split at h
    · exact ⟨(Except.ok.inj h).symm, fun hstring => by cases hstring⟩
    · cases h
  · exact ⟨(Except.ok.inj h).symm, fun hstring => by cases hstring⟩

/-- **The default is spelled as what it stands for is written**: a number as a numeral, a date without white space
around it; the other texts always are. -/
def SpelledAsWritten : FieldType → Wording → Prop
  | .number, v => IsIntNumeral v.shown.toList
  | .date, v => ∀ c ∈ v.shown.toList, isBlank c = false
  | _, _ => True

theorem written_cases {type : FieldType} {v : Wording} {value : DefaultValue} (htype : type ≠ .boolean)
    (h : coerce type v = .ok value) : (∀ b, value ≠ .flag b) ∧ (value.written = v ∧ SpelledAsWritten type v ∨
      ∃ l, value.written = String.ofList l ∧ (∀ c ∈ l, IsNumerical c) ∧
      (v.shown.toList = l ↔ SpelledAsWritten type v)) := by
  cases type with
  | boolean => exact absurd rfl htype
  | number =>
    obtain ⟨n, rfl⟩ : ∃ n, value = .number n := ⟨_, number_eq_ok h⟩
    exact ⟨nofun, .inr ⟨intNumeral n, rfl, (isIntNumeral_intNumeral n).numerical, shown_eq_intNumeral_iff h⟩⟩
  | date =>
    obtain ⟨y, m, d, -, htrim, rfl⟩ := date_text h
    have hnumerical := Calendar.numerical_iso y m d
    refine ⟨nofun, .inr ⟨Calendar.iso y m d, rfl, hnumerical, fun heq => ?_, fun hink => ?_⟩⟩
    · exact fun c hc => (hnumerical c (heq ▸ hc)).ink
    · rw [← htrim]
      exact (trim_eq_self hink).symm
  | string =>
    obtain ⟨rfl, -⟩ := eq_text_of_coerce (.inl rfl) h
    exact ⟨nofun, .inl ⟨rfl, trivial⟩⟩
  | email =>
    obtain ⟨rfl, -⟩ := eq_text_of_coerce (.inr (.inl rfl)) h
    exact ⟨nofun, .inl ⟨rfl, trivial⟩⟩
  | text =>
    obtain ⟨rfl, -⟩ := eq_text_of_coerce (.inr (.inr rfl)) h
    exact ⟨nofun, .inl ⟨rfl, trivial⟩⟩

end Default
end Scaffold
