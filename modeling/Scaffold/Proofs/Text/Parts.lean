import Mathlib.Data.List.Basic
import Scaffold.Text.Blank
/-!
# Proofs.Text.Parts — parts put together and cut again

Parts without the separator are found again where each has one behind it (`split_flatMap`).  `prefixed` lets the first
part go on in front.
-/
namespace Scaffold
namespace Text

section Parts

variable {α : Type}

def prefixed (u : List α) : List (List α) → List (List α)
  | [] => [u]
  | p :: ps => (u ++ p) :: ps

theorem prefixed_nil {ps : List (List α)} (h : ps ≠ []) : prefixed [] ps = ps := by
  cases ps with
  | nil => exact absurd rfl h
  | cons p ps => rfl

theorem prefixed_ne_nil (u : List α) (ps : List (List α)) : prefixed u ps ≠ [] := by
  cases ps <;> simp [prefixed]

theorem consPart_eq_prefixed (c : α) (ps : List (List α)) : consPart c ps = prefixed [c] ps := by
  cases ps <;> rfl

theorem consPart_prefixed (c : α) (u : List α) (ps : List (List α)) :
    consPart c (prefixed u ps) = prefixed (c :: u) ps := by
  cases ps <;> rfl

theorem join_cons (sep : List α) {p : List α} {ps : List (List α)} (h : ps ≠ []) :
    join sep (p :: ps) = p ++ sep ++ join sep ps := by
  cases ps with
  | nil => exact absurd rfl h
  | cons q ps => rfl

theorem join_append_sep (sep : List α) : ∀ {ps : List (List α)}, ps ≠ [] →
    join sep ps ++ sep = ps.flatMap (fun p => p ++ sep)
  | [], h => absurd rfl h
  | [p], _ => by simp [join]
  | p :: q :: ps, _ => by
    rw [join_cons sep (by simp), List.append_assoc, join_append_sep sep (by simp)]
    rfl

theorem join_cons_eq_flatMap (sep p : List α) : ∀ ps : List (List α),
    join sep (p :: ps) = p ++ ps.flatMap (fun q => sep ++ q)
  | [] => (List.append_nil p).symm
  | q :: ps => by
    rw [join_cons sep (List.cons_ne_nil q ps), join_cons_eq_flatMap sep q ps, List.flatMap_cons]
    simp only [List.append_assoc]

theorem exists_join_cons (sep p : List α) (ps : List (List α)) : ∃ rest, join sep (p :: ps) = p ++ rest := by
  cases ps with
  | nil => exact ⟨[], (List.append_nil p).symm⟩
  | cons q ps => exact ⟨sep ++ join sep (q :: ps), by rw [join_cons sep (by simp), List.append_assoc]⟩

theorem join_append_cons (sep : List α) (ps qs : List (List α)) (a b : List α) :
    join sep (ps ++ (a ++ b) :: qs) = join sep (ps ++ [a]) ++ join sep (b :: qs) := by
  induction ps with
  | nil => cases qs <;> simp [join]
  | cons p ps ih =>
    rw [List.cons_append, List.cons_append, join_cons sep (by simp), join_cons sep (by simp), ih]
    simp

theorem map_join {β : Type} (f : α → β) (sep : List α) : ∀ (ps : List (List α)),
    (join sep ps).map f = join (sep.map f) (ps.map (List.map f))
  | [] => rfl
  | [p] => rfl
  | p :: q :: ps => by
    rw [join_cons sep (by simp), List.map_cons, join_cons (sep.map f) (by simp), List.map_append, List.map_append,
      map_join f sep (q :: ps)]

theorem mem_or_of_mem_join {sep : List α} {a : α} : ∀ {ps : List (List α)}, a ∈ join sep ps → a ∈ sep ∨ ∃ p ∈ ps, a ∈ p
  | [], h => by cases h
  | [p], h => .inr ⟨p, by simp, h⟩
  | p :: q :: ps, h => by
    rw [join_cons sep (by simp), List.mem_append, List.mem_append] at h
    rcases h with (h | h) | h
    · exact .inr ⟨p, by simp, h⟩
    · exact .inl h
    · rcases mem_or_of_mem_join h with h | ⟨r, hr, ha⟩
      · exact .inl h
      · exact .inr ⟨r, List.mem_cons_of_mem p hr, ha⟩

theorem mem_join_of_mem {sep : List α} {a : α} : ∀ {ps : List (List α)} {p : List α}, p ∈ ps → a ∈ p → a ∈ join sep ps
  | [_], p, hp, ha => by rwa [← List.mem_singleton.1 hp]
  | q :: r :: ps, p, hp, ha => by
    rw [join_cons sep (by simp), List.mem_append]
    rcases List.mem_cons.1 hp with rfl | hp
    · exact .inl (List.mem_append_left _ ha)
    · exact .inr (mem_join_of_mem hp ha)

theorem intercalate_eq_join (sep : List α) : ∀ (ps : List (List α)), sep.intercalate ps = join sep ps
  | [] => rfl
  | [p] => by simp [List.intercalate, join]
  | p :: q :: ps => by
    have ih := intercalate_eq_join sep (q :: ps)
    simp only [List.intercalate] at ih ⊢
    rw [join_cons sep (by simp), ← ih]
    simp

theorem toList_lines {lines : List String} (h : lines ≠ []) :
    ("\n".intercalate lines ++ "\n").toList = (lines.map String.toList).flatMap (fun l => l ++ ['\n']) := by
  rw [String.toList_append, String.toList_intercalate, intercalate_eq_join]
  exact join_append_sep ['\n'] (by simpa using h)

theorem lines_append {a b : List String} (ha : a ≠ []) (hb : b ≠ []) : "\n".intercalate (a ++ b) ++ "\n" =
    ("\n".intercalate a ++ "\n") ++ ("\n".intercalate b ++ "\n") := by
  rw [← String.toList_inj, String.toList_append (s := _ ++ _), toList_lines (by simp [ha]), toList_lines ha,
    toList_lines hb, List.map_append, List.flatMap_append]

variable [DecidableEq α]

theorem split_of_not_mem {sep : α} : ∀ {l : List α}, sep ∉ l → split sep l = [l]
  | [], _ => rfl
  | c :: l, h => by
    obtain ⟨hc, hl⟩ := not_or.1 (fun hor => h (List.mem_cons.2 hor))
    rw [split, if_neg (Ne.symm hc), split_of_not_mem hl]
    rfl

theorem split_append (sep : α) : ∀ (a b : List α), split sep (a ++ sep :: b) = split sep a ++ split sep b
  | [], b => by simp [split]
  | c :: a, b => by
    rw [List.cons_append, split, split, split_append sep a b]
    split
    · rfl
    · cases h : split sep a with
      | nil => exact absurd h (split_ne_nil sep a)
      | cons p ps => rfl

theorem split_prefixed {sep : α} : ∀ {u : List α}, sep ∉ u → ∀ l, split sep (u ++ l) = prefixed u (split sep l)
  | [], _, l => (prefixed_nil (split_ne_nil sep l)).symm
  | c :: u, h, l => by
    obtain ⟨hc, hu⟩ := not_or.1 (fun hor => h (List.mem_cons.2 hor))
    rw [List.cons_append, split, if_neg (Ne.symm hc), split_prefixed hu, consPart_prefixed]

theorem split_append_cons {sep : α} {l : List α} (h : sep ∉ l) (r : List α) :
    split sep (l ++ sep :: r) = l :: split sep r := by
  rw [split_append, split_of_not_mem h]
  rfl

/-- **Parts with separators between them are found again.** -/
theorem split_join {sep : α} : ∀ {ps : List (List α)}, ps ≠ [] → (∀ p ∈ ps, sep ∉ p) → split sep (join [sep] ps) = ps
  | [], h, _ => absurd rfl h
  | [p], _, h => split_of_not_mem (h p List.mem_cons_self)
  | p :: q :: ps, _, h => by
    rw [join_cons [sep] (List.cons_ne_nil q ps), List.append_assoc, List.singleton_append,
      split_append_cons (h p List.mem_cons_self),
      split_join (List.cons_ne_nil q ps) (fun r hr => h r (List.mem_cons_of_mem p hr))]

theorem words_join {sep : α} {ps : List (List α)} (hsep : ∀ p ∈ ps, sep ∉ p) (hne : ∀ p ∈ ps, p ≠ []) :
    words sep (join [sep] ps) = ps := by
  cases ps with
  | nil => rfl
  | cons p ps =>
    rw [words, split_join (List.cons_ne_nil p ps) hsep, List.filter_eq_self]
    exact fun q hq => by simpa using hne q hq

theorem replace_join {old new : α} {ps : List (List α)} (h : ∀ p ∈ ps, old ∉ p) :
    replace old new (join [old] ps) = join [new] ps := by
  have hkept : ∀ p ∈ ps, p.map (fun c => if c = old then new else c) = p := fun p hp => by
    have hself : ∀ c ∈ p, (if c = old then new else c) = c :=
      fun c hc => if_neg (fun heq : c = old => h p hp (heq ▸ hc))
    rw [List.map_congr_left hself, List.map_id']
  have hmap := map_join (fun c => if c = old then new else c) [old] ps
  rwa [List.map_singleton, if_pos rfl, List.map_congr_left hkept, List.map_id'] at hmap

/-- **Parts with the separator behind each of them** are cut there, and wherever they have it themselves. -/
theorem split_flatMap_append (sep : α) : ∀ (ps : List (List α)) (r : List α),
    split sep (ps.flatMap (fun p => p ++ [sep]) ++ r) = ps.flatMap (split sep) ++ split sep r
  | [], _ => rfl
  | p :: ps, r => by
    rw [List.flatMap_cons, List.append_assoc, List.append_assoc, List.singleton_append, split_append,
      split_flatMap_append sep ps r, List.flatMap_cons, List.append_assoc]

theorem flatMap_split_of_not_mem {sep : α} : ∀ {ps : List (List α)}, (∀ p ∈ ps, sep ∉ p) → ps.flatMap (split sep) = ps
  | [], _ => rfl
  | p :: ps, h => by
    obtain ⟨hp, hps⟩ := List.forall_mem_cons.1 h
    rw [List.flatMap_cons, split_of_not_mem hp, flatMap_split_of_not_mem hps, List.singleton_append]

theorem split_flatMap {sep : α} {ps : List (List α)} (h : ∀ p ∈ ps, sep ∉ p) (r : List α) :
    split sep (ps.flatMap (fun p => p ++ [sep]) ++ r) = ps ++ split sep r := by
  rw [split_flatMap_append, flatMap_split_of_not_mem h]

theorem sublist_of_mem_split {sep : α} : ∀ {l p : List α}, p ∈ split sep l → p.Sublist l
  | [], p, h => by rw [List.mem_singleton.1 h]
  | c :: l, p, h => by
    rw [split] at h
    split at h
    · rcases List.mem_cons.1 h with rfl | h
      · exact List.nil_sublist _
      · exact (sublist_of_mem_split h).cons c
    · obtain ⟨q, qs, hqs⟩ := List.exists_cons_of_ne_nil (split_ne_nil sep l)
      have ih : ∀ r ∈ q :: qs, r.Sublist l := fun r hr => sublist_of_mem_split (hqs ▸ hr)
      rw [hqs] at h
      rcases List.mem_cons.1 h with rfl | h
      · exact (ih q List.mem_cons_self).cons_cons c
      · exact (ih p (List.mem_cons_of_mem q h)).cons c

theorem words_flatMap {sep : α} {ps : List (List α)} (hsep : ∀ p ∈ ps, sep ∉ p)
    (hne : ∀ p ∈ ps, p ≠ []) : words sep (ps.flatMap (fun p => p ++ [sep])) = ps := by
  have hsplit := split_flatMap hsep []
  rw [List.append_nil] at hsplit
  rw [words, hsplit, split, List.filter_append, List.filter_eq_self.2 (fun p hp => by simpa using hne p hp)]
  exact List.append_nil ps

end Parts

end Text
end Scaffold
