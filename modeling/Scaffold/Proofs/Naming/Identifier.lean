import Mathlib.Data.List.TakeWhile
import Scaffold.Naming
/-!
# Proofs.Naming.Identifier — what an identifier is made of

An identifier is a plain one, or a plain one with a line feed behind it.  It is not blank, and as a wording it holds no
half of a pair (`isWhole_of_isIdentifier`), so the text it is shown as says which wording it is (`ofText_shown`).
-/
namespace Scaffold
namespace Text

theorem dropFinalNewline_cases (l : List Char) : dropFinalNewline l = l ∨ l = dropFinalNewline l ++ ['\n'] := by
  unfold dropFinalNewline
  split
  · rename_i r hr
    exact .inr (by rw [← List.reverse_reverse l, hr, List.reverse_cons])
  · exact .inl rfl

theorem trim_eq_nil_iff (l : List Char) : trim l = [] ↔ ∀ c ∈ l, isBlank c = true := by
  have hright : ∀ r : List Char, trimRight r = [] ↔ ∀ c ∈ r, isBlank c = true := fun r => by
    simp [trimRight, List.dropWhile_eq_nil_iff]
  rw [trim, hright, trimLeft]
  constructor
  · intro h c hc
    rw [← List.takeWhile_append_dropWhile (p := isBlank) (l := l)] at hc
    rcases List.mem_append.1 hc with hc | hc
    · exact List.mem_takeWhile_imp hc
    · exact h c hc
  · exact fun h c hc => h c ((List.dropWhile_suffix isBlank).subset hc)

end Text

namespace Naming

open Text

theorem isPlainIdentifier_eq_true {l : List Char} :
    isPlainIdentifier l = true ↔ ∃ c rest, l = c :: rest ∧ isIdentifierStart c = true ∧
      ∀ d ∈ rest, isIdentifierPart d = true := by
  cases l with
  | nil => simp [isPlainIdentifier]
  | cons c rest =>
    simp only [isPlainIdentifier, Bool.and_eq_true, List.all_eq_true]
    constructor
    · exact fun h => ⟨c, rest, rfl, h⟩
    · rintro ⟨c', rest', hl, h⟩
      obtain ⟨rfl, rfl⟩ := List.cons.inj hl
      exact h

/-- **An identifier is a plain one, with a line feed behind it or without.** -/
theorem isIdentifier_eq_true {l : List Char} :
    isIdentifier l = true ↔ ∃ p, isPlainIdentifier p = true ∧ (l = p ∨ l = p ++ ['\n']) := by
  constructor
  · intro h
    rcases dropFinalNewline_cases l with hl | hl
    · exact ⟨l, by rwa [isIdentifier, hl] at h, .inl rfl⟩
    · exact ⟨_, h, .inr hl⟩
  · rintro ⟨p, hp, rfl | rfl⟩
    · rcases dropFinalNewline_cases l with hl | hl
      · rwa [isIdentifier, hl]
      · -- a plain identifier has no line feed at its end
        obtain ⟨c, rest, rfl, hc, hrest⟩ := isPlainIdentifier_eq_true.1 hp
        have hmem : '\n' ∈ c :: rest := by rw [hl]; simp
        rcases List.mem_cons.1 hmem with rfl | hmem
        · cases hc
        · cases hrest _ hmem
    · simpa [isIdentifier, dropFinalNewline] using hp

theorem isIdentifierPart_of_start {c : Char} (h : isIdentifierStart c = true) : isIdentifierPart c = true := by
  simp [isIdentifierPart, h]

theorem forall_mem_of_isPlainIdentifier {l : List Char} (h : isPlainIdentifier l = true) :
    ∀ c ∈ l, isIdentifierPart c = true := by
  obtain ⟨c, rest, rfl, hc, hrest⟩ := isPlainIdentifier_eq_true.1 h
  exact List.forall_mem_cons.2 ⟨isIdentifierPart_of_start hc, hrest⟩

theorem ne_nil_of_isPlainIdentifier {l : List Char} (h : isPlainIdentifier l = true) : l ≠ [] := by
  rintro rfl
  cases h

theorem part_or_newline_of_mem {l : List Char} (h : isIdentifier l = true) {c : Char} (hc : c ∈ l) :
    isIdentifierPart c = true ∨ c = '\n' := by
  obtain ⟨p, hp, hl⟩ := isIdentifier_eq_true.1 h
  obtain ⟨d, rest, rfl, hd, hrest⟩ := isPlainIdentifier_eq_true.1 hp
  have hpart : ∀ e ∈ d :: rest, isIdentifierPart e = true :=
    List.forall_mem_cons.2 ⟨isIdentifierPart_of_start hd, hrest⟩
  rcases hl with rfl | rfl
  · exact .inl (hpart c hc)
  · rcases List.mem_append.1 hc with hc | hc
    · exact .inl (hpart c hc)
    · exact .inr (List.mem_singleton.1 hc)

theorem isBlank_of_start {c : Char} (h : isIdentifierStart c = true) : isBlank c = false := by
  simp only [isIdentifierStart, isUpperAscii, isLowerAscii, Bool.or_eq_true, Bool.and_eq_true, decide_eq_true_eq] at h
  rcases h with h | rfl
  · simp only [isBlank, Bool.or_eq_false_iff, Bool.and_eq_false_iff, decide_eq_false_iff_not, beq_eq_false_iff_ne]
    omega
  · decide

theorem isBlank_of_part {c : Char} (h : isIdentifierPart c = true) : isBlank c = false := by
  simp only [isIdentifierPart, Bool.or_eq_true] at h
  rcases h with h | h
  · exact isBlank_of_start h
  · simp only [isDigitAscii, Bool.and_eq_true, decide_eq_true_eq] at h
    simp only [isBlank, Bool.or_eq_false_iff, Bool.and_eq_false_iff, decide_eq_false_iff_not, beq_eq_false_iff_ne]
    omega

theorem ne_nil_of_isIdentifier {l : List Char} (h : isIdentifier l = true) : l ≠ [] := by
  rintro rfl
  cases h

theorem trim_ne_nil_of_isIdentifier {l : List Char} (h : isIdentifier l = true) : trim l ≠ [] := by
  obtain ⟨p, hp, hl⟩ := isIdentifier_eq_true.1 h
  obtain ⟨c, rest, rfl, hc, -⟩ := isPlainIdentifier_eq_true.1 hp
  rw [Ne, trim_eq_nil_iff]
  intro hblank
  have hmem : c ∈ l := by rcases hl with rfl | rfl <;> simp
  have := hblank c hmem
  rw [isBlank_of_start hc] at this
  cases this

end Naming

namespace Wording

open Text

theorem ofText_shown {w : Wording} (h : w.isWhole = true) : ofText w.shown = w := by
  obtain ⟨signs⟩ := w
  simp only [isWhole, Bool.not_eq_true', List.any_eq_false] at h
  simp only [ofText, shown, String.toList_ofList, List.map_map, mk.injEq]
  conv => rhs; rw [← List.map_id signs]
  refine List.map_congr_left (fun x hx => ?_)
  cases x with
  | char c => rfl
  | half n => exact absurd rfl (h _ hx)

theorem isWhole_of_not_mem {w : Wording} (h : replacement ∉ w.shown.toList) : w.isWhole = true := by
  simp only [isWhole, Bool.not_eq_true', List.any_eq_false]
  intro x hx hhalf
  cases x with
  | char c => cases hhalf
  | half n => exact h (by simpa [shown] using ⟨_, hx, rfl⟩)

theorem isWhole_of_isIdentifier {w : Wording} (h : Naming.isIdentifier w.shown.toList = true) : w.isWhole = true :=
  isWhole_of_not_mem (fun hc => by
    rcases Naming.part_or_newline_of_mem h hc with hp | hp
    · cases hp
    · cases hp)

end Wording
end Scaffold
