import Scaffold.Artifact.Model
import Scaffold.Artifact.Table
import Scaffold.Proofs.Schema.Grammar
/-!
# Proofs.Schema.Canonical — a default is read again from what is written of it

What a default stands for is written into the schema of the tables and into the model: a number in decimal, a truth
value as a word, every other value as the text that it is.  Read as a default of the same type, what is written stands
for the same value (`coerce_written`).  For numbers the spellings are those with a sign or none, with digits of any
script that are not too many, and with white space around them (`coerce_number_eq_ok_iff`); the numeral that is written
is one of them.
-/
namespace Scaffold

open Text

/-! ## Signs and digits -/

namespace Text

def signsOf : Bool → List (List Char)
  | true => [['-']]
  | false => [[], ['+']]

theorem exists_signed (l : List Char) : ∃ sign ∈ signsOf (signed l).1, l = sign ++ (signed l).2 := by
  unfold signed
  split
  · exact ⟨['-'], by simp [signsOf], rfl⟩
  · exact ⟨['+'], by simp [signsOf], rfl⟩
  · exact ⟨[], by simp [signsOf], rfl⟩

theorem signed_append {minus : Bool} {sign digits : List Char} (hsign : sign ∈ signsOf minus)
    (hdigits : ∀ c ∈ digits, isDecimal c = true) : signed (sign ++ digits) = (minus, digits) := by
  cases minus <;> simp only [signsOf, List.mem_cons, List.not_mem_nil, or_false] at hsign
  · rcases hsign with rfl | rfl
    · exact signed_of_isDecimal hdigits
    · rfl
  · subst hsign
    rfl

def signedValue (minus : Bool) (digits : List Char) : Int :=
  if minus then -(natOfDigits digits : Int) else natOfDigits digits

theorem natAbs_signedValue (minus : Bool) (digits : List Char) :
    (signedValue minus digits).natAbs = natOfDigits digits := by
  cases minus <;> simp [signedValue]

theorem exists_intNumeral : ∀ n : Int, ∃ minus, ∃ sign ∈ signsOf minus,
    intNumeral n = sign ++ numeral n.natAbs ∧ signedValue minus (numeral n.natAbs) = n
  | .ofNat n => ⟨false, [], List.mem_cons_self, rfl, congrArg Int.ofNat (natOfDigits_numeral n)⟩
  | .negSucc n => ⟨true, ['-'], List.mem_cons_self, rfl,
    congrArg (fun m : Nat => -(m : Int)) (natOfDigits_numeral (n + 1))⟩

end Text

namespace Wording

/-- **A number as it may be spelled**: a sign or none, then digits of any script that are not too many, and white space
around them. -/
structure SpellsNumber (v : Wording) (minus : Bool) (digits : List Char) : Prop where
  spelled : ∃ sign ∈ signsOf minus, v.trimmed = (String.ofList (sign ++ digits) : Wording)
  ne_nil : digits ≠ []
  decimal : ∀ c ∈ digits, isDecimal c = true
  few : digits.length ≤ maxDigits

theorem replacement_not_mem_spelled {minus : Bool} {sign digits : List Char} (hsign : sign ∈ signsOf minus)
    (hdigits : ∀ c ∈ digits, isDecimal c = true) : replacement ∉ sign ++ digits := by
  have hnone : isDecimal replacement = false := by decide
  have hall : ∀ sign ∈ signsOf minus, replacement ∉ sign := by cases minus <;> decide
  rw [List.mem_append, not_or]
  exact ⟨hall sign hsign, fun hmem => by simp [hdigits _ hmem] at hnone⟩

theorem trimmed_of_numerical {l : List Char} (h : ∀ c ∈ l, IsNumerical c) :
    (String.ofList l : Wording).trimmed = String.ofList l := by
  rw [trimmed_eq_ofList_iff (replacement_not_mem h), shown_ofText, String.toList_ofList]
  exact trim_eq_self (fun c hc => (h c hc).ink)

end Wording

namespace Default

/-! ## Numbers -/

/-- **A number is taken exactly in these spellings**, and stands for what its sign and its digits write. -/
theorem coerce_number_eq_ok_iff {v : Wording} {value : DefaultValue} : coerce .number v = .ok value ↔
    ∃ minus digits, v.SpellsNumber minus digits ∧ value = .number (signedValue minus digits) := by
  constructor
  · intro h
    rw [coerce, number] at h
    obtain ⟨sign, hsign, hl⟩ := exists_signed (trim v.shown.toList)
    generalize signed (trim v.shown.toList) = read at h hsign hl
    obtain ⟨minus, digits⟩ := read
    dsimp only at h hsign hl
    split at h
    · cases h
    · rename_i hdigits
      simp only [Bool.or_eq_true, List.isEmpty_iff, Bool.not_eq_true', not_or, Bool.not_eq_false,
        List.all_eq_true] at hdigits
      split at h
      · cases h
      · rename_i hfew
        refine ⟨minus, digits, ⟨⟨sign, hsign, ?_⟩, hdigits.1, hdigits.2, Nat.not_lt.1 hfew⟩, (Except.ok.inj h).symm⟩
        exact (Wording.trimmed_eq_ofList_iff (Wording.replacement_not_mem_spelled hsign hdigits.2)).2 hl
  · rintro ⟨minus, digits, ⟨⟨sign, hsign, hv⟩, hne, hdecimal, hfew⟩, rfl⟩
    have htrim := (Wording.trimmed_eq_ofList_iff (Wording.replacement_not_mem_spelled hsign hdecimal)).1 hv
    have hall : digits.all isDecimal = true := List.all_eq_true.2 hdecimal
    rw [coerce, number, htrim, signed_append hsign hdecimal]
    dsimp only
    rw [if_neg (by simp [hne, hall]), if_neg (Nat.not_lt.2 hfew), signedValue]

theorem exists_spellsNumber {n : Int} (hfew : (numeral n.natAbs).length ≤ maxDigits) : ∃ minus,
    (String.ofList (intNumeral n) : Wording).SpellsNumber minus (numeral n.natAbs) ∧
      signedValue minus (numeral n.natAbs) = n := by
  have hnumeral := isNumeral_numeral n.natAbs
  obtain ⟨minus, sign, hsign, hn, hvalue⟩ := exists_intNumeral n
  refine ⟨minus, ⟨⟨sign, hsign, ?_⟩, hnumeral.ne_nil,
    fun c hc => isDecimal_of_isDigitAscii (hnumeral.digits c hc), hfew⟩, hvalue⟩
  rw [← hn]
  exact Wording.trimmed_of_numerical (isIntNumeral_intNumeral n).numerical

theorem length_numeral_signedValue_le {v : Wording} {minus : Bool} {digits : List Char}
    (h : v.SpellsNumber minus digits) : (numeral (signedValue minus digits).natAbs).length ≤ maxDigits := by
  rw [natAbs_signedValue]
  exact (length_numeral_natOfDigits_le h.ne_nil).trans h.few

theorem coerce_intNumeral {v : Wording} {minus : Bool} {digits : List Char} (h : v.SpellsNumber minus digits) :
    coerce .number (String.ofList (intNumeral (signedValue minus digits))) =
      .ok (.number (signedValue minus digits)) := by
  obtain ⟨minus', hnumeral, hvalue⟩ := exists_spellsNumber (length_numeral_signedValue_le h)
  exact coerce_number_eq_ok_iff.2 ⟨minus', _, hnumeral, by rw [hvalue]⟩

/-! ## All types -/

/-- **A default is read again from what is written of it.** -/
theorem coerce_written {type : FieldType} {v : Wording} {value : DefaultValue} (h : coerce type v = .ok value) :
    coerce type value.written = .ok value := by
  cases type with
  | number =>
    obtain ⟨minus, digits, hv, rfl⟩ := coerce_number_eq_ok_iff.1 h
    exact coerce_intNumeral hv
  | boolean =>
    obtain ⟨b, rfl⟩ := boolean_eq_ok h
    cases b <;> decide
  | date =>
    obtain ⟨y, m, d, hdate, -, rfl⟩ := coerce_date_eq_ok_iff.1 h
    exact coerce_date_eq_ok_iff.2 ⟨y, m, d, hdate, Wording.trimmed_of_numerical (Calendar.numerical_iso y m d), rfl⟩
  | string =>
    obtain ⟨rfl, -⟩ := eq_text_of_coerce (.inl rfl) h
    exact h
  | email =>
    obtain ⟨rfl, -⟩ := eq_text_of_coerce (.inr (.inl rfl)) h
    exact h
  | text =>
    obtain ⟨rfl, -⟩ := eq_text_of_coerce (.inr (.inr rfl)) h
    exact h

/-- **What the tables and the model get of a default is read as the same value again.**  Of a number they get its
numeral, whatever its spelling was, and a numeral has never more digits than are read. -/
theorem written_taken_again :
    (∀ type v value, coerce type v = .ok value →
      (ColumnDefault.ofValue value = .expression value.written ∧
          ModelDefault.ofValue value = .expression value.written ∨
        ColumnDefault.ofValue value = .literal value.written ∧
          ModelDefault.ofValue value = .literal value.written) ∧
      coerce type value.written = .ok value) ∧
    (∀ v value, coerce .number v = .ok value ↔
      ∃ minus digits, v.SpellsNumber minus digits ∧ value = .number (signedValue minus digits)) ∧
    ∀ (v : Wording) minus digits, v.SpellsNumber minus digits →
      let n := signedValue minus digits
      (numeral n.natAbs).length ≤ maxDigits ∧ coerce .number (String.ofList (intNumeral n)) = .ok (.number n) := by
  refine ⟨fun type v value h => ⟨?_, coerce_written h⟩, fun v value => coerce_number_eq_ok_iff,
    fun v minus digits h => ⟨length_numeral_signedValue_le h, coerce_intNumeral h⟩⟩
  cases value with
  | text w => exact .inr ⟨rfl, rfl⟩
  | number n => exact .inl ⟨rfl, rfl⟩
  | flag b => exact .inl ⟨rfl, rfl⟩

/-- Digits of another script behind a plus are written in those of ASCII, and without the zeros in front. -/
theorem foreign_number_taken_again : (" +٠٠٧ " : Wording).SpellsNumber false ['٠', '٠', '٧'] ∧
    coerce .number " +٠٠٧ " = .ok (.number 7) ∧ coerce .number "7" = .ok (.number 7) := by
  have hspelled : (" +٠٠٧ " : Wording).SpellsNumber false ['٠', '٠', '٧'] :=
    ⟨⟨['+'], by decide, by decide +kernel⟩, by decide, List.all_eq_true.mp (by decide), by decide⟩
  have hsame : signedValue false ['٠', '٠', '٧'] = 7 := by decide +kernel
  have hread := (written_taken_again.2.1 " +٠٠٧ " (.number 7)).2 ⟨_, _, hspelled, by rw [hsame]⟩
  exact ⟨hspelled, hread, (written_taken_again.1 _ _ _ hread).2⟩

end Default
end Scaffold
