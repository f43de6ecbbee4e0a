import Mathlib.Data.Bool.AllAny
import Scaffold.Proofs.Naming.Words
/-!
# Proofs.Naming.Snake — snake case in one pass

Underscores are put in two passes, of which the first does not see every word: it goes on behind a word that it found,
and so misses the next one where that begins at once.  Together the two passes put an underscore before every capital of
which the neighbours say that it begins a word, and look at each neighbourhood once (`breakHumps_breakWords`).  So in
ASCII nothing is lost, an underscore is only added before a capital, and a second time adds none
(`snake_loses_nothing`).
-/
namespace Scaffold
namespace Naming

open Text

/-- **The second of two neighbours begins a word**: it is a capital, and it stands behind a small letter or a digit, or
before a small letter and not at the start of a line. -/
def beginsWord (c u : Char) (rest : List Char) : Bool :=
  isUpperAscii u && (isLowerAscii c || isDigitAscii c || (decide (c ≠ '\n') && rest.head?.any isLowerAscii))

def spaced : List Char → List Char
  | c :: u :: rest => if beginsWord c u rest then c :: '_' :: spaced (u :: rest) else c :: spaced (u :: rest)
  | short => short

/-! ## The two passes are one -/

theorem not_isUpperAscii_of_isLowerAscii {c : Char} (h : isLowerAscii c = true) : isUpperAscii c = false := by
  simp only [isLowerAscii, isUpperAscii, Bool.and_eq_true, Bool.and_eq_false_iff, decide_eq_true_eq,
    decide_eq_false_iff_not] at h ⊢
  omega

theorem spaced_of_not_upper {u : Char} (h : isUpperAscii u = false) (c : Char) (rest : List Char) :
    spaced (c :: u :: rest) = c :: spaced (u :: rest) := by
  rw [spaced, beginsWord, h, Bool.false_and, if_neg Bool.false_ne_true]

theorem exists_breakWords_cons (inRun : Bool) (c : Char) (l : List Char) :
    ∃ rest, breakWords inRun (c :: l) = c :: rest := by
  match l with
  | [] => exact ⟨_, rfl⟩
  | [d] => exact ⟨_, rfl⟩
  | u :: s :: l =>
    unfold breakWords
    split
    · exact ⟨_, rfl⟩
    · split <;> exact ⟨_, rfl⟩

theorem breakHumps_cons {c : Char} {l rest : List Char} (hrest : breakHumps rest = spaced l)
    (hhead : rest.head? = l.head?) (hbreak : ∀ u s l', l = u :: s :: l' → isUpperAscii u = true →
      isLowerAscii s = true → c = '\n' ∨ isLowerAscii c = true ∨ isDigitAscii c = true) :
    breakHumps (c :: rest) = spaced (c :: l) := by
  cases l with
  | nil =>
    cases rest with
    | nil => rfl
    | cons u rest => cases hhead
  | cons u l =>
    obtain ⟨rest', rfl⟩ : ∃ rest', rest = u :: rest' := by
      cases rest with
      | nil => cases hhead
      | cons v rest' => exact ⟨rest', by rw [Option.some.inj hhead]⟩
    have hagree : ((isLowerAscii c || isDigitAscii c) && isUpperAscii u) = beginsWord c u l := by
      rw [beginsWord, Bool.and_comm]
      cases hu : isUpperAscii u with
      | false => rfl
      | true =>
        cases l with
        | nil => simp
        | cons s l =>
          cases hs : isLowerAscii s with
          | false => simp [hs]
          | true => rcases hbreak u s l rfl hu hs with hc | hc | hc <;> simp [hc]
    rw [breakHumps, spaced, hrest, hagree]

/-- **The two passes are one**: wherever the first stands, whether it passes over small letters there or not, the
underscores that it misses are put by the second. -/
theorem breakHumps_breakWords (inRun : Bool) (l : List Char) : breakHumps (breakWords inRun l) = spaced l := by
  have hhead : ∀ inRun l, (breakWords inRun l).head? = l.head? := fun inRun l => by
    cases l with
    | nil => rfl
    | cons c l =>
      obtain ⟨rest, hrest⟩ := exists_breakWords_cons inRun c l
      rw [hrest]
      rfl
  fun_induction breakWords inRun l with
  | case1 inRun c u s rest hrun ih =>
    have hc : isLowerAscii c = true := (Bool.and_eq_true _ _ ▸ hrun).2
    exact breakHumps_cons ih (hhead _ _) (fun _ _ _ _ _ _ => .inr (.inl hc))
  | case2 inRun c u s rest hrun hbreak ih =>
    simp only [Bool.and_eq_true, decide_eq_true_eq] at hbreak
    obtain ⟨⟨hc, hu⟩, hs⟩ := hbreak
    have hbegins : beginsWord c u (s :: rest) = true := by simp [beginsWord, hc, hu, hs]
    have hbehind := breakHumps_cons ih (hhead _ _) (c := s) (fun _ _ _ _ _ _ => .inr (.inl hs))
    have hsmall := not_isUpperAscii_of_isLowerAscii hs
    rw [spaced, if_pos hbegins, spaced_of_not_upper hsmall, ← hbehind, breakHumps, if_neg (by simp [isUpperAscii]),
      breakHumps, if_neg (by simp [isLowerAscii, isDigitAscii]), breakHumps, if_neg (by simp [hsmall])]
  | case3 inRun c u s rest hrun hbreak ih =>
    refine breakHumps_cons ih (hhead _ _) (fun u' s' l' heq hu hs => ?_)
    obtain ⟨rfl, htail⟩ := List.cons.inj heq
    obtain ⟨rfl, -⟩ := List.cons.inj htail
    refine .inl (Classical.byContradiction (fun hc => hbreak ?_))
    simp [hc, hu, hs]
  | case4 inRun short hshort =>
    rcases short with _ | ⟨c, _ | ⟨u, _ | ⟨s, rest⟩⟩⟩
    · rfl
    · rfl
    · simp [breakHumps, spaced, beginsWord, Bool.and_comm]
    · exact absurd rfl (hshort c u s rest)

/-- **Snake case by the rule for words.** -/
theorem snake_eq (l : List Char) : snake l = lower (spaced l) := by rw [snake, breakHumps_breakWords]

/-! ## Nothing is lost -/

def small (c : Char) : Char := if isUpperAscii c then Char.ofNat (c.toNat + 32) else c

theorem lower_eq_map {l : List Char} (h : ∀ c ∈ l, c.toNat < 128) : lower l = l.map small := by
  have hfrom : ∀ (l before : List Char), (∀ c ∈ l, c.toNat < 128) → lowerFrom before l = l.map small := by
    intro l
    induction l with
    | nil => exact fun _ _ => rfl
    | cons c l ih =>
      intro before h
      obtain ⟨hc, hl⟩ := List.forall_mem_cons.1 h
      have hsigma : c ≠ 'Σ' := by
        rintro rfl
        exact absurd hc (by decide)
      have hsmall : lowerChar c = [small c] := by
        rw [lowerChar, if_pos hc, small]
        split <;> rfl
      rw [lowerFrom, lowerAt, if_neg hsigma, hsmall, ih _ hl, List.map_cons, List.singleton_append]
  exact hfrom l [] h

/-- **`t` is `l` in small letters, with underscores put before some of its capitals.** -/
inductive Respaced : List Char → List Char → Prop
  | nil : Respaced [] []
  | keep (c : Char) {l t : List Char} : Respaced l t → Respaced (c :: l) (small c :: t)
  | space (u : Char) {l t : List Char} : isUpperAscii u = true → Respaced l t → Respaced (u :: l) ('_' :: small u :: t)

theorem exists_spaced_cons : ∀ (c : Char) (l : List Char), ∃ t, spaced (c :: l) = c :: t ∧ Respaced l (t.map small)
  | c, [] => ⟨[], rfl, .nil⟩
  | c, u :: rest => by
    obtain ⟨t, ht, hrest⟩ := exists_spaced_cons u rest
    rw [spaced, ht]
    split
    · rename_i hbegins
      have hu : isUpperAscii u = true := (Bool.and_eq_true _ _ ▸ hbegins).1
      exact ⟨_, rfl, .space u hu hrest⟩
    · exact ⟨_, rfl, .keep u hrest⟩

theorem respaced_spaced (l : List Char) : Respaced l ((spaced l).map small) := by
  cases l with
  | nil => exact .nil
  | cons c l =>
    obtain ⟨t, ht, hrest⟩ := exists_spaced_cons c l
    rw [ht]
    exact .keep c hrest

namespace Respaced

variable {l t : List Char}

theorem filter_eq (h : Respaced l t) : t.filter (· ≠ '_') = (l.map small).filter (· ≠ '_') := by
  induction h with
  | nil => rfl
  | keep c _ ih => simp only [List.map_cons, List.filter_cons, ih]
  | space u _ _ ih =>
    simp only [List.map_cons, List.filter_cons, ih, ne_eq, not_true_eq_false, decide_false, Bool.false_eq_true,
      if_false]

theorem forall_mem {P : Char → Prop} (h : Respaced l t) (hunderscore : P '_') (hl : ∀ c ∈ l, P (small c)) :
    ∀ d ∈ t, P d := by
  induction h with
  | nil => exact List.forall_mem_nil P
  | keep c _ ih =>
    obtain ⟨hc, hl⟩ := List.forall_mem_cons.1 hl
    exact List.forall_mem_cons.2 ⟨hc, ih hl⟩
  | space u _ _ ih =>
    obtain ⟨hu, hl⟩ := List.forall_mem_cons.1 hl
    exact List.forall_mem_cons.2 ⟨hunderscore, List.forall_mem_cons.2 ⟨hu, ih hl⟩⟩

end Respaced

theorem toNat_spaced_lt {l : List Char} (h : ∀ c ∈ l, c.toNat < 128) : ∀ c ∈ spaced l, c.toNat < 128 := by
  fun_induction spaced l with
  | case1 c u rest hbegins ih =>
    obtain ⟨hc, hl⟩ := List.forall_mem_cons.1 h
    exact List.forall_mem_cons.2 ⟨hc, List.forall_mem_cons.2 ⟨by decide, ih hl⟩⟩
  | case2 c u rest hbegins ih =>
    obtain ⟨hc, hl⟩ := List.forall_mem_cons.1 h
    exact List.forall_mem_cons.2 ⟨hc, ih hl⟩
  | case3 => exact h

theorem snake_eq_map {l : List Char} (h : ∀ c ∈ l, c.toNat < 128) : snake l = (spaced l).map small := by
  rw [snake_eq, lower_eq_map (toNat_spaced_lt h)]

theorem respaced_snake {l : List Char} (h : ∀ c ∈ l, c.toNat < 128) : Respaced l (snake l) :=
  snake_eq_map h ▸ respaced_spaced l

theorem small_spec {c : Char} (h : c.toNat < 128) : (small c).toNat < 128 ∧ isUpperAscii (small c) = false := by
  have hall : ∀ n < 128, (small (Char.ofNat n)).toNat < 128 ∧ isUpperAscii (small (Char.ofNat n)) = false := by decide
  exact forall_ascii (P := fun c => (small c).toNat < 128 ∧ isUpperAscii (small c) = false) hall h

theorem isPlainIdentifier_snake {l : List Char} (h : isPlainIdentifier l = true) :
    isPlainIdentifier (snake l) = true := by
  have hparts := forall_mem_of_isPlainIdentifier h
  have hall : ∀ n < 128, isIdentifierStart (Char.ofNat n) = true → isIdentifierStart (small (Char.ofNat n)) = true := by
    decide
  obtain ⟨c, rest, rfl, hc, -⟩ := isPlainIdentifier_eq_true.1 h
  have hascii : ∀ d ∈ c :: rest, d.toNat < 128 := fun d hd => toNat_lt_of_part (hparts d hd)
  have hsnake := allParts_snake hparts
  obtain ⟨t, ht, -⟩ := exists_spaced_cons c rest
  rw [snake_eq_map hascii, ht, List.map_cons] at hsnake ⊢
  exact isPlainIdentifier_eq_true.2 ⟨_, _, rfl, forall_ascii (P := fun c => isIdentifierStart c = true →
    isIdentifierStart (small c) = true) hall (hascii c List.mem_cons_self) hc, (allParts_cons.1 hsnake).2⟩

theorem spaced_eq_self {l : List Char} (h : ∀ c ∈ l, isUpperAscii c = false) : spaced l = l := by
  fun_induction spaced l with
  | case1 c u rest hbegins ih =>
    rw [beginsWord, h u (by simp), Bool.false_and] at hbegins
    cases hbegins
  | case2 c u rest hbegins ih => rw [ih (List.forall_mem_cons.1 h).2]
  | case3 => rfl

theorem snake_eq_self {l : List Char} (hascii : ∀ c ∈ l, c.toNat < 128) (h : ∀ c ∈ l, isUpperAscii c = false) :
    snake l = l := by
  have hsmall : ∀ c ∈ l, small c = c := fun c hc => by rw [small, if_neg (by simp [h c hc])]
  rw [snake_eq_map hascii, spaced_eq_self h, List.map_congr_left hsmall, List.map_id']

/-- **Snake case loses nothing of an ASCII text.**  Apart from underscores the text is there in small letters; every
underscore is kept in its place, and one is only added before a capital; and a second time changes nothing. -/
theorem snake_loses_nothing {l : List Char} (h : ∀ c ∈ l, c.toNat < 128) :
    (snake l).filter (· ≠ '_') = (lower l).filter (· ≠ '_') ∧ Respaced l (snake l) ∧ snake (snake l) = snake l := by
  have hspaced := respaced_snake h
  have hsnake : ∀ d ∈ snake l, d.toNat < 128 ∧ isUpperAscii d = false :=
    hspaced.forall_mem (by decide) (fun c hc => small_spec (h c hc))
  refine ⟨?_, hspaced, snake_eq_self (fun d hd => (hsnake d hd).1) (fun d hd => (hsnake d hd).2)⟩
  rw [hspaced.filter_eq, lower_eq_map h]

/-- **A name with runs of capitals, digits, underscores and a line end**: at the start of a line no word is begun. -/
theorem snake_server : let l := "_Tag9HTTPServer_v2Go\nTo".toList
    (∀ c ∈ l, c.toNat < 128) ∧ snake l = "__tag9_http_server_v2_go\nto".toList ∧
      (snake l).filter (· ≠ '_') = (lower l).filter (· ≠ '_') ∧ Respaced l (snake l) ∧ snake (snake l) = snake l := by
  have hascii : ∀ c ∈ "_Tag9HTTPServer_v2Go\nTo".toList, c.toNat < 128 := List.all_iff_forall_prop.1 (by decide)
  exact ⟨hascii, by decide, snake_loses_nothing hascii⟩

end Naming
end Scaffold
