import Scaffold.Proofs.Naming.Identifier
import Scaffold.Proofs.Text.Parts
/-!
# Proofs.Naming.Words — what derived names are made of

From a text of letters, digits and underscores every derived name has such characters too, hyphens in a path aside.
-/
namespace Scaffold
namespace Naming

open Text

def AllParts (l : List Char) : Prop := ∀ c ∈ l, isIdentifierPart c = true

theorem allParts_cons {c : Char} {l : List Char} : AllParts (c :: l) ↔ isIdentifierPart c = true ∧ AllParts l :=
  List.forall_mem_cons

theorem allParts_append {a b : List Char} : AllParts (a ++ b) ↔ AllParts a ∧ AllParts b := List.forall_mem_append

theorem toNat_lt_of_part {c : Char} (h : isIdentifierPart c = true) : c.toNat < 128 := by
  simp only [isIdentifierPart, isIdentifierStart, isUpperAscii, isLowerAscii, isDigitAscii, Bool.or_eq_true,
    Bool.and_eq_true, decide_eq_true_eq] at h
  rcases h with (h | rfl) | h
  · omega
  · decide
  · omega

theorem forall_ascii {P : Char → Prop} (h : ∀ n < 128, P (Char.ofNat n)) {c : Char} (hc : c.toNat < 128) : P c := by
  have := h c.toNat hc
  rwa [Char.ofNat_toNat] at this

theorem allParts_lowerChar {c : Char} (h : isIdentifierPart c = true) : AllParts (lowerChar c) := by
  have hall : ∀ n < 128, isIdentifierPart (Char.ofNat n) = true →
      (lowerChar (Char.ofNat n)).all isIdentifierPart = true := by decide
  exact List.all_eq_true.1 (forall_ascii
    (P := fun c => isIdentifierPart c = true → (lowerChar c).all isIdentifierPart = true) hall (toNat_lt_of_part h) h)

theorem allParts_upperChar {c : Char} (h : isIdentifierPart c = true) : AllParts (upperChar c) := by
  have hall : ∀ n < 128, isIdentifierPart (Char.ofNat n) = true →
      (upperChar (Char.ofNat n)).all isIdentifierPart = true := by decide
  exact List.all_eq_true.1 (forall_ascii
    (P := fun c => isIdentifierPart c = true → (upperChar c).all isIdentifierPart = true) hall (toNat_lt_of_part h) h)

theorem allParts_lowerAt (before after : List Char) {c : Char} (h : isIdentifierPart c = true) :
    AllParts (lowerAt before c after) := by
  have hsigma : c ≠ 'Σ' := by
    rintro rfl
    cases h
  rw [lowerAt, if_neg hsigma]
  exact allParts_lowerChar h

section Closed

variable {P : Char → Prop} {l : List Char}

theorem forall_mem_of_mem_words {sep : Char} (h : ∀ c ∈ l, P c) {w : List Char} (hw : w ∈ words sep l) :
    ∀ c ∈ w, P c := by
  intro c hc
  rw [← join_split sep l] at h
  exact h c (mem_join_of_mem (List.mem_filter.1 hw).1 hc)

theorem forall_mem_capitalize (hupper : ∀ c, P c → ∀ d ∈ upperChar c, P d) (h : ∀ c ∈ l, P c) :
    ∀ c ∈ capitalize l, P c := by
  cases l with
  | nil => exact h
  | cons c l =>
    obtain ⟨hc, hl⟩ := List.forall_mem_cons.1 h
    exact List.forall_mem_append.2 ⟨hupper c hc, hl⟩

/-- **What holds of every character of a name and of its capital holds of every one in Pascal case.** -/
theorem forall_mem_pascal (hupper : ∀ c, P c → ∀ d ∈ upperChar c, P d) (h : ∀ c ∈ l, P c) : ∀ c ∈ pascal l, P c := by
  unfold pascal
  split
  · split
    · exact h
    · intro c hc
      obtain ⟨w, hw, hc⟩ := List.mem_flatten.1 hc
      obtain ⟨v, hv, rfl⟩ := List.mem_map.1 hw
      exact forall_mem_capitalize hupper (forall_mem_of_mem_words h hv) c hc
  · exact forall_mem_capitalize hupper h

theorem forall_mem_lowerFrom (hlower : ∀ before c after, P c → ∀ d ∈ lowerAt before c after, P d) :
    ∀ {l : List Char} (before : List Char), (∀ c ∈ l, P c) → ∀ d ∈ lowerFrom before l, P d
  | [], _, _ => List.forall_mem_nil P
  | c :: l, before, h => by
    obtain ⟨hc, hl⟩ := List.forall_mem_cons.1 h
    exact List.forall_mem_append.2 ⟨hlower before c l hc, forall_mem_lowerFrom hlower _ hl⟩

theorem forall_mem_breakWords (hunderscore : P '_') (inRun : Bool) (h : ∀ c ∈ l, P c) :
    ∀ c ∈ breakWords inRun l, P c := by
  fun_induction breakWords inRun l with
  | case1 inRun c u l rest hrun ih =>
    obtain ⟨hc, h⟩ := List.forall_mem_cons.1 h
    exact List.forall_mem_cons.2 ⟨hc, ih h⟩
  | case2 inRun c u l rest hrun hbreak ih =>
    obtain ⟨hc, h⟩ := List.forall_mem_cons.1 h
    obtain ⟨hu, h⟩ := List.forall_mem_cons.1 h
    obtain ⟨hl, h⟩ := List.forall_mem_cons.1 h
    exact List.forall_mem_cons.2 ⟨hc, List.forall_mem_cons.2 ⟨hunderscore, List.forall_mem_cons.2 ⟨hu,
      List.forall_mem_cons.2 ⟨hl, ih h⟩⟩⟩⟩
  | case3 inRun c u l rest hrun hbreak ih =>
    obtain ⟨hc, h⟩ := List.forall_mem_cons.1 h
    exact List.forall_mem_cons.2 ⟨hc, ih h⟩
  | case4 => exact h

theorem forall_mem_breakHumps (hunderscore : P '_') (h : ∀ c ∈ l, P c) : ∀ c ∈ breakHumps l, P c := by
  fun_induction breakHumps l with
  | case1 a b rest hhump ih =>
    obtain ⟨ha, h⟩ := List.forall_mem_cons.1 h
    exact List.forall_mem_cons.2 ⟨ha, List.forall_mem_cons.2 ⟨hunderscore, ih h⟩⟩
  | case2 a b rest hhump ih =>
    obtain ⟨ha, h⟩ := List.forall_mem_cons.1 h
    exact List.forall_mem_cons.2 ⟨ha, ih h⟩
  | case3 => exact h

theorem forall_mem_snake (hunderscore : P '_') (hlower : ∀ before c after, P c → ∀ d ∈ lowerAt before c after, P d)
    (h : ∀ c ∈ l, P c) : ∀ c ∈ snake l, P c :=
  forall_mem_lowerFrom hlower [] (forall_mem_breakHumps hunderscore (forall_mem_breakWords hunderscore false h))

theorem forall_mem_plural (hending : ∀ c ∈ ['i', 'e', 's'], P c) (h : ∀ c ∈ l, P c) : ∀ c ∈ plural l, P c := by
  have hes : ∀ c ∈ ['e', 's'], P c := (List.forall_mem_cons.1 hending).2
  have hs : ∀ c ∈ ['s'], P c := (List.forall_mem_cons.1 hes).2
  unfold plural
  split
  · exact List.forall_mem_append.2 ⟨h, hes⟩
  · exact List.forall_mem_append.2 ⟨h, hes⟩
  · exact List.forall_mem_append.2 ⟨h, hes⟩
  · exact List.forall_mem_append.2 ⟨h, hes⟩
  · exact List.forall_mem_append.2 ⟨h, hes⟩
  · rename_i c stem hl
    split
    · exact List.forall_mem_append.2 ⟨h, hs⟩
    · refine List.forall_mem_append.2 ⟨fun d hd => h d ?_, hending⟩
      rw [← List.mem_reverse, hl]
      exact List.mem_cons_of_mem _ (List.mem_reverse.1 hd)
  · exact List.forall_mem_append.2 ⟨h, hs⟩

theorem changeLast_eq (f : List Char → List Char) : ∀ {ws : List (List Char)} (hne : ws ≠ []),
    changeLast f ws = ws.dropLast ++ [f (ws.getLast hne)]
  | [], hne => absurd rfl hne
  | [w], _ => rfl
  | v :: w :: ws, _ => by
    rw [changeLast, changeLast_eq f (List.cons_ne_nil w ws), List.dropLast_cons_of_ne_nil (List.cons_ne_nil w ws),
      List.getLast_cons (List.cons_ne_nil w ws), List.cons_append]
    exact fun heq => absurd heq (List.cons_ne_nil w ws)

theorem mem_changeLast {f : List Char → List Char} {ws : List (List Char)} {w : List Char} (h : w ∈ changeLast f ws) :
    w ∈ ws ∨ ∃ v ∈ ws, w = f v := by
  by_cases hne : ws = []
  · rw [hne, changeLast] at h
    cases h
  · rw [changeLast_eq f hne] at h
    rcases List.mem_append.1 h with h | h
    · exact .inl ((List.dropLast_sublist ws).subset h)
    · exact .inr ⟨_, List.getLast_mem hne, List.mem_singleton.1 h⟩

theorem table_eq (h : words '_' (snake l) ≠ []) : table l = join ['_'] (changeLast plural (words '_' (snake l))) := by
  unfold table
  split
  · rename_i hnil
    exact absurd hnil h
  · rfl

/-- **What holds of every character in snake case, of the underscore and of the endings of plurals holds of every one in
the name of the table.** -/
theorem forall_mem_table (hunderscore : P '_') (hending : ∀ c ∈ ['i', 'e', 's'], P c) (h : ∀ c ∈ snake l, P c) :
    ∀ c ∈ table l, P c := by
  have hwords : ∀ w ∈ words '_' (snake l), ∀ c ∈ w, P c := fun w hw => forall_mem_of_mem_words h hw
  unfold table
  split
  · exact forall_mem_plural hending h
  · intro c hc
    rcases mem_or_of_mem_join hc with hc | ⟨w, hw, hc⟩
    · rwa [List.mem_singleton.1 hc]
    · rcases mem_changeLast hw with hw | ⟨v, hv, rfl⟩
      · exact hwords w hw c hc
      · exact forall_mem_plural hending (hwords v hv) c hc

theorem forall_mem_path (hhyphen : P '-') (h : ∀ c ∈ table l, P c) : ∀ c ∈ path l, P c := by
  intro c hc
  obtain ⟨d, hd, rfl⟩ := List.mem_map.1 hc
  split
  · exact hhyphen
  · exact h d hd

end Closed

theorem allParts_lowerFrom {l : List Char} (before : List Char) (h : AllParts l) : AllParts (lowerFrom before l) :=
  forall_mem_lowerFrom (fun before _ after => allParts_lowerAt before after) before h

theorem allParts_snake {l : List Char} (h : AllParts l) : AllParts (snake l) :=
  forall_mem_snake (by decide) (fun before _ after => allParts_lowerAt before after) h

theorem allParts_of_mem_words {l w : List Char} (h : AllParts l) (hw : w ∈ words '_' l) : AllParts w :=
  forall_mem_of_mem_words h hw

theorem allParts_pascal {l : List Char} (h : AllParts l) : AllParts (pascal l) :=
  forall_mem_pascal (fun _ => allParts_upperChar) h

theorem allParts_table {l : List Char} (h : AllParts l) : AllParts (table l) :=
  forall_mem_table (by decide) (List.all_eq_true.1 (by decide)) (allParts_snake h)

theorem part_or_hyphen_of_mem_path {l : List Char} (h : AllParts l) {c : Char} (hc : c ∈ path l) :
    isIdentifierPart c = true ∨ c = '-' :=
  forall_mem_path (P := fun c => isIdentifierPart c = true ∨ c = '-') (.inr rfl)
    (fun d hd => .inl (allParts_table h d hd)) c hc

/-! ## A line feed at the end

What passes for an identifier may have a line feed at its end, which the derived names keep. -/

def AllNameChars (l : List Char) : Prop := ∀ c ∈ l, isIdentifierPart c = true ∨ c = '\n'

theorem allNameChars_of_isIdentifier {l : List Char} (h : isIdentifier l = true) : AllNameChars l :=
  fun _ => part_or_newline_of_mem h

theorem allNameChars_snake {l : List Char} (h : AllNameChars l) : AllNameChars (snake l) := by
  refine forall_mem_snake (.inl (by decide)) (fun before c after hc d hd => ?_) h
  rcases hc with hc | rfl
  · exact .inl (allParts_lowerAt before after hc d hd)
  · exact .inr (List.mem_singleton.1 hd)

theorem allNameChars_table {l : List Char} (h : AllNameChars l) : AllNameChars (table l) := by
  have hending : ∀ c ∈ ['i', 'e', 's'], isIdentifierPart c = true := List.all_eq_true.1 (by decide)
  exact forall_mem_table (.inl (by decide)) (fun c hc => .inl (hending c hc)) (allNameChars_snake h)

theorem part_or_newline_of_mem_pascal {l : List Char} (h : isIdentifier l = true) :
    ∀ c ∈ pascal l, isIdentifierPart c = true ∨ c = '\n' := by
  refine forall_mem_pascal (fun c hc d hd => ?_) (fun c => part_or_newline_of_mem h)
  rcases hc with hc | rfl
  · exact .inl (allParts_upperChar hc d hd)
  · exact .inr (List.mem_singleton.1 hd)

end Naming
end Scaffold
