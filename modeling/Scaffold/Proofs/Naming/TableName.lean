import Scaffold.Proofs.Naming.ClassName
import Scaffold.Proofs.Naming.Snake
import Scaffold.Proofs.Naming.Pattern
/-!
# Proofs.Naming.TableName — tables and paths are words with single separators

Snake case may put an underscore beside one that the name has, or leave one at an end.  The name of the table is cut
into words at all of them and put together again, so between two words there is one and none stands at an end: the table
is of the pattern `[a-z0-9]+(_[a-z0-9]+)*` and the path of that with hyphens, if the name has a letter or a digit at all
(`table_mem_separated`).
-/
namespace Scaffold
namespace Naming

open Computability Text

def smalls : Language Char := range 'a' 'z' + range '0' '9'

def word : Language Char := smalls * smalls∗

/-- **Words with single separators between them**, `[a-z0-9]+(sep[a-z0-9]+)*`. -/
def separated (sep : Char) : Language Char := word * (range sep sep * word)∗

def IsSmall (c : Char) : Prop := isLowerAscii c = true ∨ isDigitAscii c = true

theorem mem_smalls {l : List Char} : l ∈ smalls ↔ ∃ c, l = [c] ∧ IsSmall c := by
  simp only [smalls, Language.mem_add, mem_range, IsSmall, isLowerAscii, isDigitAscii, Bool.and_eq_true,
    decide_eq_true_eq]
  constructor
  · rintro (⟨c, rfl, h⟩ | ⟨c, rfl, h⟩)
    · exact ⟨c, rfl, .inl h⟩
    · exact ⟨c, rfl, .inr h⟩
  · rintro ⟨c, rfl, h | h⟩
    · exact .inl ⟨c, rfl, h⟩
    · exact .inr ⟨c, rfl, h⟩

theorem mem_word {l : List Char} : l ∈ word ↔ l ≠ [] ∧ ∀ c ∈ l, IsSmall c := by
  rw [word, Language.mem_mul]
  constructor
  · rintro ⟨_, hfirst, rest, hrest, rfl⟩
    obtain ⟨c, rfl, hc⟩ := mem_smalls.1 hfirst
    exact ⟨List.cons_ne_nil c rest, List.forall_mem_cons.2 ⟨hc, (mem_kstar_iff mem_smalls).1 hrest⟩⟩
  · rintro ⟨hne, hl⟩
    obtain ⟨c, rest, rfl⟩ := List.exists_cons_of_ne_nil hne
    obtain ⟨hc, hrest⟩ := List.forall_mem_cons.1 hl
    exact ⟨[c], mem_smalls.2 ⟨c, rfl, hc⟩, rest, (mem_kstar_iff mem_smalls).2 hrest, rfl⟩

theorem join_mem_separated (sep : Char) {ws : List (List Char)} (hne : ws ≠ []) (h : ∀ w ∈ ws, w ∈ word) :
    join [sep] ws ∈ separated sep := by
  obtain ⟨w, ws, rfl⟩ := List.exists_cons_of_ne_nil hne
  obtain ⟨hw, hws⟩ := List.forall_mem_cons.1 h
  rw [join_cons_eq_flatMap, separated, Language.mem_mul]
  refine ⟨w, hw, _, Language.mem_kstar.2 ⟨ws.map (fun v => [sep] ++ v), ?_, List.forall_mem_map.2 (fun v hv => ?_)⟩,
    rfl⟩
  · rw [List.flatMap_def]
  · exact Language.mem_mul.2 ⟨[sep], mem_range_self.2 rfl, v, hws v hv, rfl⟩

def HasWord (l : List Char) : Prop := ∃ c ∈ l, isUpperAscii c = true ∨ isLowerAscii c = true ∨ isDigitAscii c = true

theorem isSmall_of_mem_snake {l : List Char} (h : isPlainIdentifier l = true) :
    ∀ c ∈ snake l, IsSmall c ∨ c = '_' := by
  have hparts := forall_mem_of_isPlainIdentifier h
  have hall : ∀ n < 128, isIdentifierPart (Char.ofNat n) = true →
      (isLowerAscii (small (Char.ofNat n)) = true ∨ isDigitAscii (small (Char.ofNat n)) = true) ∨
        small (Char.ofNat n) = '_' := by decide
  exact (respaced_snake (fun c hc => toNat_lt_of_part (hparts c hc))).forall_mem (.inr rfl)
    (fun c hc => forall_ascii (P := fun c => isIdentifierPart c = true → IsSmall (small c) ∨ small c = '_') hall
      (toNat_lt_of_part (hparts c hc)) (hparts c hc))

theorem words_snake_spec {l : List Char} (h : isPlainIdentifier l = true) (hword : HasWord l) :
    words '_' (snake l) ≠ [] ∧ ∀ w ∈ words '_' (snake l), w ∈ word := by
  have hascii : ∀ c ∈ l, c.toNat < 128 := fun c hc => toNat_lt_of_part (forall_mem_of_isPlainIdentifier h c hc)
  constructor
  · -- the letter or digit is still there, so snake case is more than underscores
    intro hnil
    obtain ⟨c, hc, hkind⟩ := hword
    have hall : ∀ n < 128, isUpperAscii (Char.ofNat n) = true ∨ isLowerAscii (Char.ofNat n) = true ∨
        isDigitAscii (Char.ofNat n) = true → small (Char.ofNat n) ≠ '_' := by decide
    have hne := forall_ascii (P := fun c => isUpperAscii c = true ∨ isLowerAscii c = true ∨ isDigitAscii c = true →
      small c ≠ '_') hall (hascii c hc) hkind
    have hmem : small c ∈ (snake l).filter (· ≠ '_') := by
      rw [(respaced_snake hascii).filter_eq]
      exact List.mem_filter.2 ⟨List.mem_map_of_mem hc, by simpa using hne⟩
    have hself := List.dropWhile_eq_nil_iff.1 (words_eq_nil_iff.1 hnil) _ (List.mem_filter.1 hmem).1
    exact hne (eq_of_beq hself)
  · intro w hw
    refine mem_word.2 ⟨ne_nil_of_mem_words hw, fun c hc => ?_⟩
    rcases forall_mem_of_mem_words (isSmall_of_mem_snake h) hw c hc with hsmall | rfl
    · exact hsmall
    · exact absurd hc (not_mem_of_mem_split '_' (snake l) w (List.mem_filter.1 hw).1)

theorem plural_mem_word {w : List Char} (h : w ∈ word) : plural w ∈ word := by
  obtain ⟨hne, hw⟩ := mem_word.1 h
  have hending : ∀ c ∈ ['i', 'e', 's'], IsSmall c := by
    have hletters : ∀ c ∈ ['i', 'e', 's'], isLowerAscii c = true := List.all_eq_true.1 (by decide)
    exact fun c hc => .inl (hletters c hc)
  refine mem_word.2 ⟨?_, forall_mem_plural hending hw⟩
  unfold plural
  repeat' split
  all_goals simp

/-- **The words of the table** are those of the name with the last one in the plural, and the path has them too. -/
theorem exists_table_words {l : List Char} (h : isPlainIdentifier l = true) (hword : HasWord l) :
    ∃ ws : List (List Char),
    ws ≠ [] ∧ (∀ w ∈ ws, w ∈ word) ∧ table l = join ['_'] ws ∧ path l = join ['-'] ws := by
  obtain ⟨hne, hwords⟩ := words_snake_spec h hword
  have hmem : ∀ w ∈ changeLast plural (words '_' (snake l)), w ∈ word := fun w hw => by
    rcases mem_changeLast hw with hw | ⟨v, hv, rfl⟩
    · exact hwords w hw
    · exact plural_mem_word (hwords v hv)
  have hunderscore : ∀ w ∈ changeLast plural (words '_' (snake l)), '_' ∉ w := fun w hw hc => by
    rcases (mem_word.1 (hmem w hw)).2 _ hc with hletter | hdigit
    · cases hletter
    · cases hdigit
  refine ⟨changeLast plural (words '_' (snake l)), ?_, hmem, table_eq hne, ?_⟩
  · rw [changeLast_eq plural hne]
    simp
  · rw [path, table_eq hne, replace_join hunderscore]

/-- **The table and the path of an identifier with a letter or a digit.** -/
theorem table_mem_separated {l : List Char} (h : isPlainIdentifier l = true) (hword : HasWord l) :
    table l ∈ separated '_' ∧ path l ∈ separated '-' := by
  obtain ⟨ws, hne, hws, htable, hpath⟩ := exists_table_words h hword
  rw [htable, hpath]
  exact ⟨join_mem_separated '_' hne hws, join_mem_separated '-' hne hws⟩

end Naming
end Scaffold
