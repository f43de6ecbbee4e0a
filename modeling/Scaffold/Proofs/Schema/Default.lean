import Mathlib.Tactic.Tauto
import Scaffold.Proofs.Naming.Identifier
import Scaffold.Schema.Default
/-!
# Proofs.Schema.Default — what a default that is a text stands for

Of four types the defaults are texts.  A date is given back without the white space around it, every other text as it
is, and an address holds no white space but a line feed at its end.
-/
namespace Scaffold

open Text

namespace FieldType

def IsTextual : FieldType → Prop
  | .string | .text | .email | .date => True
  | .number | .boolean => False

end FieldType

namespace Default

theorem eq_of_dateParts? {l year month day : List Char} (h : dateParts? l = some (year, month, day)) :
    l = year ++ '-' :: (month ++ '-' :: day) := by
  unfold dateParts? at h
  split at h
  · split at h
    · simp only [Option.some.injEq, Prod.mk.injEq] at h
      obtain ⟨rfl, rfl, rfl⟩ := h
      rfl
    · cases h
  · cases h

theorem date_eq_ok {v : Wording} {value : DefaultValue} (h : date v = .ok value) :
    ∃ l, value = .text (String.ofList l) ∧ ∀ c ∈ l, isBlank c = false := by
  simp only [date] at h
  split at h
  · cases h
  · rename_i year month day hparts
    split at h
    · cases h
    · rename_i hdigits
      rw [Bool.not_eq_true', Bool.not_eq_false, List.all_eq_true] at hdigits
      split at h
      · cases h
      · refine ⟨_, (Except.ok.inj h).symm, fun c hc => ?_⟩
        have hdigit : c = '-' ∨ isDigitAscii c = true := by
          rw [eq_of_dateParts? hparts] at hc
          simp only [List.mem_append, List.mem_cons] at hc hdigits
          by_cases hdash : c = '-'
          · exact .inl hdash
          · exact .inr (hdigits c (by tauto))
        rcases hdigit with rfl | hdigit
        · decide
        · exact Naming.isBlank_of_part (by simp [Naming.isIdentifierPart, hdigit])

theorem not_isBlank_of_isEmail {l : List Char} (h : isEmail l = true) : ∀ c ∈ l, isBlank c = false := by
  unfold isEmail at h
  split at h
  · simp only [Bool.and_eq_true, Bool.not_eq_true', List.any_eq_false] at h
    exact fun c hc => by simpa using h.2 c hc
  · cases h

/-- **What the default of a type with texts stands for.** -/
theorem text_of_coerce {type : FieldType} (htype : type.IsTextual) {v : Wording} {value : DefaultValue}
    (h : coerce type v = .ok value) : ∃ w, value = .text w ∧
      (type = .date → ∀ c ∈ w.shown.toList, isBlank c = false) ∧
      (type = .email → ∀ c ∈ dropFinalNewline w.shown.toList, isBlank c = false) := by
  cases type with
  | number => exact htype.elim
  | boolean => exact htype.elim
  | date =>
    obtain ⟨l, rfl, hl⟩ := date_eq_ok h
    exact ⟨_, rfl, by simpa using hl, by simp⟩
  | email =>
    simp only [coerce] at h
    split at h
    · rename_i hemail
      exact ⟨v, (Except.ok.inj h).symm, by simp, fun _ => not_isBlank_of_isEmail hemail⟩
    · cases h
  | string =>
    simp only [coerce] at h
    split at h
    · cases h
    · exact ⟨v, (Except.ok.inj h).symm, by simp⟩
  | text => exact ⟨v, (Except.ok.inj h).symm, by simp⟩

theorem ne_text_of_coerce {type : FieldType} (htype : ¬ type.IsTextual) {v : Wording} {value : DefaultValue}
    (h : coerce type v = .ok value) : ∀ w, value ≠ .text w := by
  rintro w rfl
  cases type with
  | number =>
    simp only [coerce, number] at h
    split at h
    · cases h
    · split at h <;> cases h
  | boolean =>
    simp only [coerce, boolean] at h
    split at h
    · cases h
    · split at h <;> cases h
  | _ => exact htype trivial

end Default

namespace Field

variable {f : Field}

theorem coerced_eq_ok_iff {value? : Option DefaultValue} : f.coerced = .ok value? ↔
    (f.default? = none ∧ value? = none) ∨
      ∃ d value, f.default? = some d ∧ Default.coerce f.type d = .ok value ∧ value? = some value := by
  unfold coerced
  cases f.default? with
  | none => simp [eq_comm]
  | some d => cases hd : Default.coerce f.type d <;> simp [hd, Except.map, eq_comm]

theorem coerced_eq_some_iff {value : DefaultValue} :
    f.coerced = .ok (some value) ↔ ∃ d, f.default? = some d ∧ Default.coerce f.type d = .ok value := by
  simp [coerced_eq_ok_iff]

end Field
end Scaffold
