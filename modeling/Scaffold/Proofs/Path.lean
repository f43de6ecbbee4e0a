import Scaffold.Path
import Scaffold.Proofs.Naming.ClassName
import Scaffold.Proofs.Text.Parts
/-!
# Proofs.Path — the parts of a path that was put together

A path under a directory has the parts of the directory followed by those of the file (`parts_under`), and begins where
the directory begins (`root_under`).
-/
namespace Scaffold

namespace Path

open Text

/-- The text stands as one part of a path. -/
structure IsPart (p : List Char) : Prop where
  ne_nil : p ≠ []
  whole : '/' ∉ p
  ne_point : p ≠ ['.']

theorem isPart_of_mem_parts {l p : List Char} (h : p ∈ parts l) : IsPart p := by
  obtain ⟨hword, hpoint⟩ := List.mem_filter.1 h
  obtain ⟨hsplit, hempty⟩ := List.mem_filter.1 hword
  exact ⟨by simpa using hempty, not_mem_of_mem_split '/' l p hsplit, by simpa using hpoint⟩

theorem parts_of_isPart {p : List Char} (h : IsPart p) : parts p = [p] := by
  rw [parts, words, split_of_not_mem h.whole]
  simp [h.ne_nil, h.ne_point]

theorem parts_append_slash {p : List Char} (h : IsPart p) (l : List Char) : parts (p ++ '/' :: l) = p :: parts l := by
  rw [parts, words, split_append_cons h.whole]
  simp [h.ne_nil, h.ne_point, parts, words]

theorem parts_join : ∀ {ps : List (List Char)}, (∀ p ∈ ps, IsPart p) → parts (join ['/'] ps) = ps
  | [], _ => rfl
  | [p], h => parts_of_isPart (h p List.mem_cons_self)
  | p :: q :: ps, h => by
    obtain ⟨hp, hps⟩ := List.forall_mem_cons.1 h
    rw [join_cons ['/'] (List.cons_ne_nil q ps), List.append_assoc, List.singleton_append, parts_append_slash hp,
      parts_join hps]

theorem parts_slash (l : List Char) : parts ('/' :: l) = parts l := by
  rw [parts, Naming.words_cons_self]
  rfl

theorem root_cases (l : List Char) : root l = [] ∨ root l = ['/'] ∨ root l = ['/', '/'] := by
  unfold root
  split <;> simp

theorem parts_ofParts {r : List Char} (hr : r = [] ∨ r = ['/'] ∨ r = ['/', '/']) {ps : List (List Char)}
    (h : ∀ p ∈ ps, IsPart p) : parts (ofParts r ps) = ps := by
  have hjoined : parts (r ++ join ['/'] ps) = ps := by
    rcases hr with rfl | rfl | rfl
    · exact parts_join h
    · exact (parts_slash _).trans (parts_join h)
    · exact (parts_slash _).trans ((parts_slash _).trans (parts_join h))
  unfold ofParts
  split
  · -- a path without parts is written as a point
    rename_i hnil
    rw [hnil] at hjoined
    rw [← hjoined]
    rfl
  · exact hjoined

theorem root_ofParts {r : List Char} (hr : r = [] ∨ r = ['/'] ∨ r = ['/', '/']) {ps : List (List Char)}
    (h : ∀ p ∈ ps, IsPart p) : root (ofParts r ps) = r := by
  have htake : (join ['/'] ps).takeWhile (· = '/') = [] := by
    cases ps with
    | nil => rfl
    | cons p ps =>
      obtain ⟨rest, hrest⟩ := exists_join_cons ['/'] p ps
      have hp := h p List.mem_cons_self
      rw [hrest]
      cases p with
      | nil => exact absurd rfl hp.ne_nil
      | cons c p =>
        have hc : c ≠ '/' := fun heq => hp.whole (by rw [heq]; exact List.mem_cons_self)
        exact List.takeWhile_cons_of_neg (by simpa using hc)
  unfold ofParts
  split
  · rename_i hnil
    rw [(List.append_eq_nil_iff.1 hnil).1]
    rfl
  · rcases hr with rfl | rfl | rfl <;> simp [root, htake]

section Under

variable (directory file : String)

theorem isPart_of_mem_under {p : List Char} (h : p ∈ parts directory.toList ++ parts file.toList) : IsPart p := by
  rcases List.mem_append.1 h with h | h
  · exact isPart_of_mem_parts h
  · exact isPart_of_mem_parts h

/-- **A path under a directory has the parts of the directory before its own.** -/
theorem parts_under : parts (under directory file).toList = parts directory.toList ++ parts file.toList := by
  rw [under, String.toList_ofList]
  exact parts_ofParts (root_cases _) (fun _ => isPart_of_mem_under directory file)

theorem root_under : root (under directory file).toList = root directory.toList := by
  rw [under, String.toList_ofList]
  exact root_ofParts (root_cases _) (fun _ => isPart_of_mem_under directory file)

end Under

end Path
end Scaffold
