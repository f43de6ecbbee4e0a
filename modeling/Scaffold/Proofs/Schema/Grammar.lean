import Scaffold.Proofs.Schema.Spelling
import Scaffold.Proofs.Text.Parts
/-!
# Proofs.Schema.Grammar — which texts are addresses and which are dates

An address has something before its one `@`, behind it a domain with a point inside, and no white space (`IsAddress`).
As a default it is also taken with a line feed behind it, and nothing else is (`coerce_email_eq_ok_iff`).  A date is
taken exactly if, without the white space around it, it is year, month and day of a date of the calendar
(`coerce_date_eq_ok_iff`).
-/
namespace Scaffold

open Text

/-! ## Wordings and the characters that they are shown as -/

namespace Text

theorem isBlank_shown (x : Sign) : isBlank x.shown = Wording.isBlankSign x := by
  cases x <;> rfl

theorem shown_eq_iff {x : Sign} {c : Char} (hc : c ≠ replacement) : x.shown = c ↔ x = .char c := by
  cases x with
  | char d => simp [Sign.shown]
  | half n => simp [Sign.shown, hc.symm]

theorem exists_of_map_shown {c : Char} (hc : c ≠ replacement) {signs : List Sign} {a b : List Char}
    (h : signs.map Sign.shown = a ++ c :: b) :
    ∃ a' b', signs = a' ++ .char c :: b' ∧ a'.map Sign.shown = a ∧ b'.map Sign.shown = b := by
  obtain ⟨a', r, rfl, ha, hr⟩ := List.map_eq_append_iff.1 h
  obtain ⟨x, b', rfl, hx, hb⟩ := List.map_eq_cons_iff.1 hr
  obtain rfl := (shown_eq_iff hc).1 hx
  exact ⟨a', b', rfl, ha, hb⟩

theorem split_eq_pair_iff {sep : Char} {l a b : List Char} :
    split sep l = [a, b] ↔ l = a ++ sep :: b ∧ sep ∉ a ∧ sep ∉ b := by
  constructor
  · intro h
    have hjoin := join_split sep l
    rw [h] at hjoin
    refine ⟨by simpa [join] using hjoin.symm, ?_, ?_⟩
    · exact not_mem_of_mem_split sep l a (by simp [h])
    · exact not_mem_of_mem_split sep l b (by simp [h])
  · rintro ⟨rfl, ha, hb⟩
    rw [split_append_cons ha, split_of_not_mem hb]

end Text

namespace Wording

theorem toList_shown (w : Wording) : w.shown.toList = w.signs.map Sign.shown := String.toList_ofList

theorem count_shown {c : Char} (hc : c ≠ replacement) (w : Wording) :
    w.shown.toList.count c = w.signs.count (.char c) := by
  rw [toList_shown, List.count, List.count, List.countP_map]
  refine List.countP_congr (fun x _ => ?_)
  simp only [Function.comp_apply, beq_iff_eq]
  exact shown_eq_iff hc

theorem shown_trimmed (w : Wording) : w.trimmed.shown.toList = trim w.shown.toList := by
  have hdrop : ∀ signs : List Sign, (signs.map Sign.shown).dropWhile isBlank =
      (signs.dropWhile isBlankSign).map Sign.shown := fun signs => by
    rw [List.dropWhile_map, show isBlank ∘ Sign.shown = isBlankSign from funext isBlank_shown]
  simp only [toList_shown, trim, trimLeft, trimRight, trimmed, hdrop, ← List.map_reverse]

theorem trimmed_eq_ofList_iff {w : Wording} {l : List Char} (h : replacement ∉ l) :
    w.trimmed = String.ofList l ↔ trim w.shown.toList = l := by
  rw [eq_ofList_iff_of_not_mem h, shown_trimmed]

/-- **An address**: one `@` with something before it, a point behind it with something on either side, and no white
space anywhere. -/
structure IsAddress (w : Wording) : Prop where
  single : w.signs.count (.char '@') = 1
  ink : ∀ x ∈ w.signs, isBlankSign x = false
  parts : ∃ user before after, w.signs = user ++ .char '@' :: (before ++ .char '.' :: after) ∧
    user ≠ [] ∧ before ≠ [] ∧ after ≠ []

end Wording

namespace Default

/-! ## Addresses -/

theorem hasInnerPoint_iff {l : List Char} :
    hasInnerPoint l = true ↔ ∃ before after, l = before ++ '.' :: after ∧ before ≠ [] ∧ after ≠ [] := by
  rw [hasInnerPoint, List.contains_iff_mem]
  constructor
  · intro h
    cases l with
    | nil => cases h
    | cons c t =>
      rw [List.tail_cons] at h
      obtain ⟨p, q, hpq⟩ := List.append_of_mem h
      have hne : t ≠ [] := fun hnil => by simp [hnil] at h
      have hlast := List.dropLast_append_getLast hne
      rw [hpq] at hlast
      exact ⟨c :: p, q ++ [t.getLast hne], by simpa using hlast.symm, List.cons_ne_nil _ _, by simp⟩
  · rintro ⟨before, after, rfl, hbefore, hafter⟩
    cases before with
    | nil => exact absurd rfl hbefore
    | cons c before => simp [List.dropLast_append_of_ne_nil, List.dropLast_cons_of_ne_nil hafter]

theorem isEmail_eq_true {l : List Char} : isEmail l = true ↔ ∃ user domain, l = user ++ '@' :: domain ∧
    '@' ∉ user ∧ '@' ∉ domain ∧ user ≠ [] ∧ hasInnerPoint domain = true ∧ ∀ c ∈ l, isBlank c = false := by
  constructor
  · intro h
    have hink := not_isBlank_of_isEmail h
    unfold isEmail at h
    split at h
    · rename_i user domain hsplit
      obtain ⟨hl, huser, hdomain⟩ := split_eq_pair_iff.1 hsplit
      simp only [Bool.and_eq_true, Bool.not_eq_true', List.isEmpty_eq_false_iff] at h
      exact ⟨user, domain, hl, huser, hdomain, h.1.1, h.1.2, hink⟩
    · cases h
  · rintro ⟨user, domain, hl, huser, hdomain, hne, hpoint, hink⟩
    have hsplit := split_eq_pair_iff.2 ⟨hl, huser, hdomain⟩
    have hany : l.any isBlank = false := List.any_eq_false.2 (fun c hc => by rw [hink c hc]; exact Bool.false_ne_true)
    simp [isEmail, hsplit, hne, hpoint, hany]

theorem isEmail_iff (w : Wording) : isEmail w.shown.toList = true ↔ w.IsAddress := by
  have hat : '@' ≠ replacement := by decide
  have hpoint : '.' ≠ replacement := by decide
  have hink : (∀ c ∈ w.shown.toList, isBlank c = false) ↔ ∀ x ∈ w.signs, Wording.isBlankSign x = false := by
    rw [Wording.toList_shown, List.forall_mem_map]
    exact forall₂_congr (fun x _ => by rw [isBlank_shown])
  rw [isEmail_eq_true]
  constructor
  · rintro ⟨user, domain, hl, huser, hdomain, hne, hinner, hblank⟩
    have hsingle := w.count_shown hat
    rw [hl, List.count_append, List.count_cons_self, List.count_eq_zero_of_not_mem huser,
      List.count_eq_zero_of_not_mem hdomain] at hsingle
    rw [Wording.toList_shown] at hl
    obtain ⟨u, d, hsigns, rfl, rfl⟩ := exists_of_map_shown hat hl
    obtain ⟨before, after, hd, hbefore, hafter⟩ := hasInnerPoint_iff.1 hinner
    obtain ⟨b, a, rfl, rfl, rfl⟩ := exists_of_map_shown hpoint hd
    exact ⟨hsingle.symm, hink.1 hblank, u, b, a, hsigns, by simpa using hne, by simpa using hbefore,
      by simpa using hafter⟩
  · rintro ⟨hsingle, hblank, u, b, a, hsigns, hu, hb, ha⟩
    have hl : w.shown.toList = u.map Sign.shown ++ '@' :: (b.map Sign.shown ++ '.' :: a.map Sign.shown) := by
      rw [Wording.toList_shown, hsigns]
      simp [Sign.shown]
    rw [← w.count_shown hat, hl, List.count_append, List.count_cons_self] at hsingle
    refine ⟨_, _, hl, List.count_eq_zero.1 (by omega), List.count_eq_zero.1 (by omega), by simpa using hu, ?_,
      hink.2 hblank⟩
    exact hasInnerPoint_iff.2 ⟨_, _, rfl, by simpa using hb, by simpa using ha⟩

theorem isEmail_of_newline {v w : Wording} (hw : v.signs = w.signs ++ [.char '\n']) :
    isEmail (dropFinalNewline v.shown.toList) = true ↔ w.IsAddress := by
  have hshown : v.shown.toList = w.shown.toList ++ ['\n'] := by
    rw [Wording.toList_shown, hw, Wording.toList_shown, List.map_append]
    rfl
  have hdrop : dropFinalNewline v.shown.toList = w.shown.toList := by simp [dropFinalNewline, hshown]
  rw [hdrop, isEmail_iff]

theorem isEmail_of_no_newline {v : Wording} (h : ¬ ∃ w : Wording, v.signs = w.signs ++ [.char '\n']) :
    isEmail (dropFinalNewline v.shown.toList) = true ↔ v.IsAddress := by
  have hdrop : dropFinalNewline v.shown.toList = v.shown.toList := by
    rcases dropFinalNewline_cases v.shown.toList with hsame | hfeed
    · exact hsame
    · rw [Wording.toList_shown] at hfeed
      obtain ⟨a, b, hsigns, -, hb⟩ := exists_of_map_shown (by decide) hfeed
      rw [List.map_eq_nil_iff.1 hb] at hsigns
      exact absurd ⟨⟨a⟩, hsigns⟩ h
  rw [hdrop, isEmail_iff]

theorem isEmail_dropFinalNewline_iff (v : Wording) : isEmail (dropFinalNewline v.shown.toList) = true ↔
    v.IsAddress ∨ ∃ w : Wording, v.signs = w.signs ++ [.char '\n'] ∧ w.IsAddress := by
  by_cases hfeed : ∃ w : Wording, v.signs = w.signs ++ [.char '\n']
  · obtain ⟨w, hw⟩ := hfeed
    have hnot : ¬ v.IsAddress := fun h => by
      have hblank := h.ink (.char '\n') (by simp [hw])
      cases hblank
    rw [isEmail_of_newline hw, or_iff_right hnot]
    constructor
    · exact fun h => ⟨w, hw, h⟩
    · rintro ⟨w', hw', h⟩
      exact (isEmail_of_newline hw).1 ((isEmail_of_newline hw').2 h)
  · have hnone : ¬ ∃ w : Wording, v.signs = w.signs ++ [.char '\n'] ∧ w.IsAddress := by
      rintro ⟨w, hw, -⟩
      exact hfeed ⟨w, hw⟩
    rw [isEmail_of_no_newline hfeed, or_iff_left hnone]

/-- **An address is taken as it is, with a line feed behind it or without**, and nothing else is taken as one. -/
theorem coerce_email_eq_ok_iff {v : Wording} {value : DefaultValue} : coerce .email v = .ok value ↔
    (v.IsAddress ∨ ∃ w : Wording, v.signs = w.signs ++ [.char '\n'] ∧ w.IsAddress) ∧ value = .text v := by
  rw [← isEmail_dropFinalNewline_iff, coerce]
  split
  · rename_i h
    simp [h, eq_comm]
  · rename_i h
    simp [h]

/-! ## Dates -/

theorem dateParts?_iso (y m d : Nat) :
    dateParts? (Calendar.iso y m d) = some (fixed 4 y, fixed 2 m, fixed 2 d) := by
  have hdecimal : ∀ n, isDecimal (Nat.digitChar (n % 10)) = true := fun n =>
    isDecimal_of_isDigitAscii (isDigitAscii_digitChar _ (by omega))
  simp [Calendar.iso, fixed, dateParts?, hdecimal]

theorem date_iso {v : Wording} {y m d : Nat} (hdate : Calendar.IsDate y m d)
    (htrim : trim v.shown.toList = Calendar.iso y m d) : date v = .ok (.text (String.ofList (Calendar.iso y m d))) := by
  have hdigits : ∀ w n, (fixed w n).all isDigitAscii = true := fun w n =>
    List.all_eq_true.2 fun _ => isDigitAscii_of_mem_fixed
  have hyear : natOfDigits (fixed 4 y) = y := natOfDigits_fixed (by have := hdate.year; omega)
  have hmonth : natOfDigits (fixed 2 m) = m := natOfDigits_fixed (by have := hdate.month; omega)
  have hday : natOfDigits (fixed 2 d) = d := natOfDigits_fixed (by have := hdate.day; omega)
  have hfault := (Calendar.fault?_eq_none_iff hdate.year.2).2 hdate
  simp [date, htrim, dateParts?_iso, hdigits, List.all_append, -List.all_eq_true, hyear, hmonth, hday, hfault]

/-- **A date is taken exactly if it is one of the calendar**, the white space around it aside, and given back in ten
characters. -/
theorem coerce_date_eq_ok_iff {v : Wording} {value : DefaultValue} : coerce .date v = .ok value ↔
    ∃ y m d, Calendar.IsDate y m d ∧ v.trimmed = (String.ofList (Calendar.iso y m d) : Wording) ∧
      value = .text (String.ofList (Calendar.iso y m d)) := by
  have htrimmed : ∀ y m d, v.trimmed = (String.ofList (Calendar.iso y m d) : Wording) ↔
      trim v.shown.toList = Calendar.iso y m d := fun y m d =>
    Wording.trimmed_eq_ofList_iff (replacement_not_mem (Calendar.numerical_iso y m d))
  simp only [htrimmed]
  constructor
  · exact date_text
  · rintro ⟨y, m, d, hdate, htrim, rfl⟩
    exact date_iso hdate htrim

/-- **Which defaults are taken as addresses and as dates.**  An address may have a line feed behind it; a date may have
white space around it, and what it stands for has none. -/
theorem address_and_date_accepted_iff (v : Wording) (value : DefaultValue) :
    (coerce .email v = .ok value ↔
      (v.IsAddress ∨ ∃ w : Wording, v.signs = w.signs ++ [.char '\n'] ∧ w.IsAddress) ∧ value = .text v) ∧
    (coerce .date v = .ok value ↔ ∃ y m d, Calendar.IsDate y m d ∧
      v.trimmed = (String.ofList (Calendar.iso y m d) : Wording) ∧
      value = .text (String.ofList (Calendar.iso y m d))) :=
  ⟨coerce_email_eq_ok_iff, coerce_date_eq_ok_iff⟩

/-- **A line feed behind an address is taken**, although it is white space. -/
theorem address_with_feed_accepted : coerce .email "a@b.c\n" = .ok (.text "a@b.c\n") ∧
    ¬ ("a@b.c\n" : Wording).IsAddress := by
  refine ⟨by decide +kernel, fun h => ?_⟩
  have hblank := h.ink (.char '\n') (by decide)
  cases hblank

end Default
end Scaffold
