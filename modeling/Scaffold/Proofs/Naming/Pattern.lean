import Mathlib.Computability.Language
import Scaffold.Proofs.Naming.Identifier
/-!
# Proofs.Naming.Pattern — identifiers as a regular language

`identifiers` is the language of the pattern `[A-Za-z_][A-Za-z0-9_]*`, put together from ranges of characters.  A plain
identifier is a text of that language (`mem_identifiers`), and what passes for an identifier is such a text with a line
feed behind it or without (`isIdentifier_iff_mem`).
-/
namespace Scaffold
namespace Naming

open Computability Text

def range (a z : Char) : Language Char := {l | ∃ c : Char, l = [c] ∧ a.toNat ≤ c.toNat ∧ c.toNat ≤ z.toNat}

def initials : Language Char := range 'A' 'Z' + range 'a' 'z' + range '_' '_'

def parts : Language Char := initials + range '0' '9'

/-- **The language of identifiers**, `[A-Za-z_][A-Za-z0-9_]*`. -/
def identifiers : Language Char := initials * parts∗

def lineFeed : Language Char := range '\n' '\n'

theorem mem_range {a z : Char} {l : List Char} :
    l ∈ range a z ↔ ∃ c : Char, l = [c] ∧ a.toNat ≤ c.toNat ∧ c.toNat ≤ z.toNat := Iff.rfl

theorem mem_range_self {a : Char} {l : List Char} : l ∈ range a a ↔ l = [a] := by
  rw [mem_range]
  constructor
  · rintro ⟨c, rfl, hle, hge⟩
    rw [Char.toNat_inj.1 (Nat.le_antisymm hge hle)]
  · rintro rfl
    exact ⟨a, rfl, Nat.le_refl _, Nat.le_refl _⟩

theorem mem_initials {l : List Char} : l ∈ initials ↔ ∃ c, l = [c] ∧ isIdentifierStart c = true := by
  simp only [initials, Language.mem_add, mem_range_self, mem_range, isIdentifierStart, isUpperAscii, isLowerAscii,
    Bool.or_eq_true, Bool.and_eq_true, decide_eq_true_eq]
  constructor
  · rintro ((⟨c, rfl, h⟩ | ⟨c, rfl, h⟩) | rfl)
    · exact ⟨c, rfl, .inl (.inl h)⟩
    · exact ⟨c, rfl, .inl (.inr h)⟩
    · exact ⟨'_', rfl, .inr rfl⟩
  · rintro ⟨c, rfl, (h | h) | rfl⟩
    · exact .inl (.inl ⟨c, rfl, h⟩)
    · exact .inl (.inr ⟨c, rfl, h⟩)
    · exact .inr rfl

theorem mem_parts {l : List Char} : l ∈ parts ↔ ∃ c, l = [c] ∧ isIdentifierPart c = true := by
  simp only [parts, Language.mem_add, mem_initials, mem_range, isIdentifierPart, isDigitAscii, Bool.or_eq_true,
    Bool.and_eq_true, decide_eq_true_eq]
  constructor
  · rintro (⟨c, rfl, h⟩ | ⟨c, rfl, h⟩)
    · exact ⟨c, rfl, .inl h⟩
    · exact ⟨c, rfl, .inr h⟩
  · rintro ⟨c, rfl, h | h⟩
    · exact .inl ⟨c, rfl, h⟩
    · exact .inr ⟨c, rfl, h⟩

theorem mem_kstar_iff {kind : Language Char} {P : Char → Prop} (h : ∀ {l : List Char}, l ∈ kind ↔ ∃ c, l = [c] ∧ P c)
    {l : List Char} : l ∈ kind∗ ↔ ∀ c ∈ l, P c := by
  rw [Language.mem_kstar]
  constructor
  · rintro ⟨pieces, rfl, hpieces⟩ c hc
    obtain ⟨piece, hpiece, hmem⟩ := List.mem_flatten.1 hc
    obtain ⟨d, rfl, hd⟩ := h.1 (hpieces piece hpiece)
    rwa [List.mem_singleton.1 hmem]
  · intro hl
    refine ⟨l.map (fun c => [c]), by simp [← List.flatMap_def], fun piece hpiece => ?_⟩
    obtain ⟨c, hc, rfl⟩ := List.mem_map.1 hpiece
    exact h.2 ⟨c, rfl, hl c hc⟩

theorem mem_parts_star {l : List Char} : l ∈ parts∗ ↔ ∀ c ∈ l, isIdentifierPart c = true := mem_kstar_iff mem_parts

theorem mem_identifiers {l : List Char} : l ∈ identifiers ↔ isPlainIdentifier l = true := by
  rw [identifiers, Language.mem_mul, isPlainIdentifier_eq_true]
  constructor
  · rintro ⟨a, ha, rest, hrest, rfl⟩
    obtain ⟨c, rfl, hc⟩ := mem_initials.1 ha
    exact ⟨c, rest, rfl, hc, mem_parts_star.1 hrest⟩
  · rintro ⟨c, rest, rfl, hc, hrest⟩
    exact ⟨[c], mem_initials.2 ⟨c, rfl, hc⟩, rest, mem_parts_star.2 hrest, rfl⟩

/-- **What passes for an identifier**: a text of the language, with a line feed behind it or without. -/
theorem isIdentifier_iff_mem {l : List Char} : isIdentifier l = true ↔ l ∈ identifiers * (1 + lineFeed) := by
  simp only [isIdentifier_eq_true, Language.mem_mul, Language.mem_add, Language.mem_one, lineFeed, mem_range_self,
    mem_identifiers]
  constructor
  · rintro ⟨p, hp, rfl | rfl⟩
    · exact ⟨l, hp, [], .inl rfl, List.append_nil l⟩
    · exact ⟨p, hp, ['\n'], .inr rfl, rfl⟩
  · rintro ⟨p, hp, _, rfl | rfl, rfl⟩
    · exact ⟨p, hp, .inl (List.append_nil p)⟩
    · exact ⟨p, hp, .inr rfl⟩

theorem getLast?_ne_of_mem_identifiers {l : List Char} (h : l ∈ identifiers) : l.getLast? ≠ some '\n' := by
  intro hlast
  obtain ⟨c, rest, rfl, hc, hrest⟩ := isPlainIdentifier_eq_true.1 (mem_identifiers.1 h)
  rcases List.mem_cons.1 (List.mem_of_getLast? hlast) with rfl | hmem
  · cases hc
  · cases hrest _ hmem

end Naming
end Scaffold
