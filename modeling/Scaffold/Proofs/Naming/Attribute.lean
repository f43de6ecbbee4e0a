import Mathlib.Data.List.Nodup
import Mathlib.Data.List.Perm.Subperm
import Scaffold.Proofs.Naming.Identifier
/-!
# Proofs.Naming.Attribute — the attributes of a list of names

Attributes are chosen one name after the other.  What every choice keeps (`Fitting`) is that the names seen so far have
attributes, no two of them the same, and that a new attribute is neither the identity nor any of the names.  So distinct
names get distinct attributes (`attributeNames_fitting`).
-/
namespace Scaffold
namespace Naming

open Text

/-! ## Free names -/

/-- The name with up to `n` underscores behind it. -/
def candidates (n : Nat) (a : List Char) : List (List Char) :=
  (List.range (n + 1)).map (fun k => a ++ List.replicate k '_')

theorem mem_candidates {n : Nat} {a x : List Char} : x ∈ candidates n a ↔ ∃ k ≤ n, x = a ++ List.replicate k '_' := by
  simp only [candidates, List.mem_map, List.mem_range, Nat.lt_succ_iff, @eq_comm _ x]

theorem nodup_candidates (n : Nat) (a : List Char) : (candidates n a).Nodup :=
  List.Nodup.map (fun k m hkm => by simpa using congrArg List.length hkm) List.nodup_range

theorem firstFree_mem_candidates (taken : List (List Char)) : ∀ (n : Nat) (a : List Char),
    firstFree taken n a ∈ candidates n a
  | 0, a => mem_candidates.2 ⟨0, Nat.le_refl 0, by simp [firstFree]⟩
  | n + 1, a => by
    unfold firstFree
    split
    · obtain ⟨k, hk, heq⟩ := mem_candidates.1 (firstFree_mem_candidates taken n (a ++ ['_']))
      exact mem_candidates.2 ⟨k + 1, by omega, by rw [heq, List.append_assoc, List.replicate_succ]; rfl⟩
    · exact mem_candidates.2 ⟨0, by omega, by simp⟩

theorem candidates_subset_of_firstFree_mem {taken : List (List Char)} : ∀ {n : Nat} {a : List Char},
    firstFree taken n a ∈ taken → candidates n a ⊆ taken
  | 0, a, h => by simpa [firstFree, candidates] using h
  | n + 1, a, h => by
    unfold firstFree at h
    split at h
    · rename_i ha
      intro x hx
      obtain ⟨k, hk, rfl⟩ := mem_candidates.1 hx
      cases k with
      | zero => simpa using ha
      | succ k =>
        refine candidates_subset_of_firstFree_mem h (mem_candidates.2 ⟨k, Nat.le_of_succ_le_succ hk, ?_⟩)
        rw [List.append_assoc, List.singleton_append, ← List.replicate_succ]
    · rename_i ha
      exact absurd h ha

/-- **A free name is found**: more candidates are looked at than names are taken. -/
theorem firstFree_not_mem (taken : List (List Char)) (a : List Char) : firstFree taken taken.length a ∉ taken := by
  intro h
  have hle := (List.subperm_of_subset (nodup_candidates taken.length a)
    (candidates_subset_of_firstFree_mem h)).length_le
  simp only [candidates, List.length_map, List.length_range] at hle
  omega

/-! ## Choices -/

/-- **The attribute fits the name** among all names: it is the name, or it was made from it and is neither the identity
nor any of the names. -/
structure Fits (names : List (List Char)) (name attr : List Char) : Prop where
  made : ∃ k, attr = attributeName name ++ List.replicate k '_'
  kept : attributeName name = name → attr = name
  fresh : attr ≠ name → attr ∉ identity :: names

/-- **The choices made for the names seen so far.** -/
structure Fitting (names seen : List (List Char)) (s : Choice) : Prop where
  among : ∀ n ∈ seen, n ∈ names
  chosen : ∀ n ∈ seen, ∃ a, s.chosen.get? n = some a ∧ Fits names n a ∧ (a ≠ n → a ∈ s.taken)
  distinct : ∀ m ∈ seen, ∀ n ∈ seen, s.chosen.get? m = s.chosen.get? n → m = n
  taken : ∀ x ∈ identity :: names, x ∈ s.taken

/-- **What a name is given**: itself if it may stay, else its first free candidate, which is taken from then on. -/
inductive Given (s : Choice) (name : List Char) : List Char → Prop
  | kept (h : attributeName name = name) : Given s name name
  | made (h : attributeName name ≠ name)
      (htaken : firstFree s.taken s.taken.length (attributeName name) ∈ (choose s name).taken) :
      Given s name (firstFree s.taken s.taken.length (attributeName name))

theorem choose_eq (s : Choice) (name : List Char) : ∃ a, (choose s name).chosen = s.chosen.set name a ∧
    (∀ x ∈ s.taken, x ∈ (choose s name).taken) ∧ Given s name a := by
  by_cases hname : attributeName name = name
  · exact ⟨name, by simp [choose, hname], by simp [choose, hname], .kept hname⟩
  · refine ⟨_, by simp only [choose, hname, if_false], fun x hx => ?_, .made hname (by simp [choose, hname])⟩
    simp only [choose, hname, if_false]
    exact List.mem_cons_of_mem _ hx

theorem Given.fits {names : List (List Char)} {s : Choice} {name a : List Char} (h : Given s name a)
    (htaken : ∀ x ∈ identity :: names, x ∈ s.taken) :
    Fits names name a ∧ (a ≠ name → a ∈ (choose s name).taken) := by
  cases h with
  | kept hstays => exact ⟨⟨⟨0, by simp [hstays]⟩, fun _ => rfl, fun hne => absurd rfl hne⟩, fun hne => absurd rfl hne⟩
  | made hmoves hmem =>
    obtain ⟨k, -, hk⟩ := mem_candidates.1 (firstFree_mem_candidates s.taken s.taken.length (attributeName name))
    exact ⟨⟨⟨k, hk⟩, fun hstays => absurd hstays hmoves, fun _ hin => firstFree_not_mem s.taken _ (htaken _ hin)⟩,
      fun _ => hmem⟩

/-- An attribute chosen before is a name other than this one, or is taken. -/
theorem Fitting.get?_ne_of_given {names seen : List (List Char)} {s : Choice} (h : Fitting names seen s)
    {name a : List Char} (hname : name ∈ names) (hnew : name ∉ seen) (ha : Given s name a) :
    ∀ n ∈ seen, s.chosen.get? n ≠ some a := by
  intro n hn hget
  obtain ⟨b, hb, hfits, htaken⟩ := h.chosen n hn
  obtain rfl := Option.some.inj (hb.symm.trans hget)
  by_cases hbn : b = n
  · cases ha with
    | kept => exact hnew (hbn ▸ hn)
    | made =>
      exact firstFree_not_mem s.taken _ (hbn ▸ h.taken n (List.mem_cons_of_mem _ (h.among n hn)))
  · cases ha with
    | kept => exact hfits.fresh hbn (List.mem_cons_of_mem _ hname)
    | made => exact firstFree_not_mem s.taken _ (htaken hbn)

theorem Fitting.choose {names seen : List (List Char)} {s : Choice} (h : Fitting names seen s) {name : List Char}
    (hname : name ∈ names) (hnew : name ∉ seen) : Fitting names (seen ++ [name]) (choose s name) := by
  obtain ⟨a, hchosen, hgrows, ha⟩ := choose_eq s name
  have hself : (Naming.choose s name).chosen.get? name = some a := by rw [hchosen, Entries.get?_set, if_pos rfl]
  have hkept : ∀ n ∈ seen, (Naming.choose s name).chosen.get? n = s.chosen.get? n := fun n hn => by
    rw [hchosen, Entries.get?_set, if_neg (fun heq : name = n => hnew (heq ▸ hn))]
  have hother := h.get?_ne_of_given hname hnew ha
  refine ⟨?_, ?_, ?_, fun x hx => hgrows x (h.taken x hx)⟩
  · exact List.forall_mem_append.2 ⟨h.among, List.forall_mem_singleton.2 hname⟩
  · refine List.forall_mem_append.2 ⟨fun n hn => ?_, List.forall_mem_singleton.2 ⟨a, hself, ha.fits h.taken⟩⟩
    obtain ⟨b, hb, hfits, htaken⟩ := h.chosen n hn
    exact ⟨b, by rw [hkept n hn, hb], hfits, fun hbn => hgrows b (htaken hbn)⟩
  · simp only [List.forall_mem_append, List.forall_mem_singleton]
    refine ⟨fun m hm => ⟨fun n hn heq => ?_, fun heq => ?_⟩, fun n hn heq => ?_, fun _ => trivial⟩
    · rw [hkept m hm, hkept n hn] at heq
      exact h.distinct m hm n hn heq
    · rw [hkept m hm, hself] at heq
      exact absurd heq (hother m hm)
    · rw [hkept n hn, hself] at heq
      exact absurd heq.symm (hother n hn)

theorem foldl_choose_fitting {names : List (List Char)} : ∀ {rest seen : List (List Char)} {s : Choice},
    Fitting names seen s → (seen ++ rest).Nodup → (∀ n ∈ rest, n ∈ names) →
      Fitting names (seen ++ rest) (rest.foldl choose s)
  | [], seen, s, h, _, _ => by simpa using h
  | name :: rest, seen, s, h, hnodup, hrest => by
    -- a name that stood before would be given its attribute twice
    have hnew : name ∉ seen := fun hn => List.disjoint_of_nodup_append hnodup hn List.mem_cons_self
    have hstep := h.choose (hrest name List.mem_cons_self) hnew
    have hmore : seen ++ name :: rest = (seen ++ [name]) ++ rest := by simp
    rw [hmore] at hnodup ⊢
    exact foldl_choose_fitting hstep hnodup (fun n hn => hrest n (List.mem_cons_of_mem name hn))

def attributeOf (names : List (List Char)) (name : List Char) : List Char :=
  ((attributeNames names).get? name).getD name

/-- **Every name has an attribute that fits, and no two names have the same.** -/
theorem attributeOf_fits {names : List (List Char)} (h : names.Nodup) :
    (∀ n ∈ names, Fits names n (attributeOf names n)) ∧
      ∀ m ∈ names, ∀ n ∈ names, attributeOf names m = attributeOf names n → m = n := by
  have hstart : Fitting names [] ⟨[], identity :: names⟩ := ⟨by simp, by simp, by simp, fun x hx => hx⟩
  have hfitting := foldl_choose_fitting hstart (by simpa using h) (fun n hn => hn)
  rw [List.nil_append] at hfitting
  have hget : ∀ n ∈ names, (attributeNames names).get? n = some (attributeOf names n) ∧
      Fits names n (attributeOf names n) := by
    intro n hn
    obtain ⟨a, ha, hfits, -⟩ := hfitting.chosen n hn
    have heq : (attributeNames names).get? n = some a := ha
    have hof : attributeOf names n = a := by rw [attributeOf, heq, Option.getD_some]
    exact ⟨by rw [hof, heq], hof ▸ hfits⟩
  refine ⟨fun n hn => (hget n hn).2, fun m hm n hn heq => hfitting.distinct m hm n hn ?_⟩
  exact (hget m hm).1.trans ((congrArg some heq).trans (hget n hn).1.symm)

theorem forall_mem_attributeName {P : Char → Prop} (hunderscore : P '_') (hf : P 'f') {name : List Char}
    (h : ∀ c ∈ name, P c) : ∀ c ∈ attributeName name, P c := by
  have hbehind : ∀ c ∈ ['_'], P c := List.forall_mem_singleton.2 hunderscore
  unfold attributeName
  split
  · split
    · exact List.forall_mem_cons.2 ⟨hf, h⟩
    · rename_i hdrop
      split
      · exact List.forall_mem_cons.2 ⟨hf, h⟩
      · exact List.forall_mem_append.2 ⟨fun c hc => h c ((List.dropWhile_suffix _).subset (hdrop ▸ hc)), hbehind⟩
  · split
    · exact List.forall_mem_append.2 ⟨h, hbehind⟩
    · exact h

theorem Fits.forall_mem {P : Char → Prop} {names : List (List Char)} {name attr : List Char} (h : Fits names name attr)
    (hunderscore : P '_') (hf : P 'f') (hname : ∀ c ∈ name, P c) : ∀ c ∈ attr, P c := by
  obtain ⟨k, rfl⟩ := h.made
  exact List.forall_mem_append.2 ⟨forall_mem_attributeName hunderscore hf hname,
    fun c hc => List.eq_of_mem_replicate hc ▸ hunderscore⟩

/-! ## Attributes of plain identifiers -/

theorem isDigit_of_isDigitAscii {c : Char} (h : isDigitAscii c = true) : isDigit c = true := by
  have hmem : (0x30, 0x39) ∈ decimals := by
    unfold decimals
    exact List.mem_cons_self
  rw [isDigit, Bool.or_eq_true]
  exact .inl (List.any_eq_true.2 ⟨_, hmem, h⟩)

theorem isPlainIdentifier_append {a b : List Char} (h : isPlainIdentifier a = true)
    (hb : ∀ c ∈ b, isIdentifierPart c = true) : isPlainIdentifier (a ++ b) = true := by
  obtain ⟨c, rest, rfl, hc, hrest⟩ := isPlainIdentifier_eq_true.1 h
  exact isPlainIdentifier_eq_true.2 ⟨c, rest ++ b, rfl, hc, List.forall_mem_append.2 ⟨hrest, hb⟩⟩

theorem isPlainIdentifier_attributeName {name : List Char} (h : isPlainIdentifier name = true) :
    isPlainIdentifier (attributeName name) = true := by
  have hparts := forall_mem_of_isPlainIdentifier h
  have hbehind : isPlainIdentifier ('f' :: name) = true :=
    isPlainIdentifier_eq_true.2 ⟨'f', name, rfl, by decide, hparts⟩
  have hunderscore : ∀ c ∈ ['_'], isIdentifierPart c = true := List.forall_mem_singleton.2 (by decide)
  unfold attributeName
  split
  · split
    · exact hbehind
    · rename_i c rest hdrop
      split
      · exact hbehind
      · rename_i hdigit
        have hsub : ∀ d ∈ c :: rest, isIdentifierPart d = true := fun d hd =>
          hparts d ((List.dropWhile_suffix _).subset (hdrop ▸ hd))
        obtain ⟨hc, hrest⟩ := List.forall_mem_cons.1 hsub
        have hstart : isIdentifierStart c = true := by
          simp only [isIdentifierPart, Bool.or_eq_true] at hc
          exact hc.resolve_right (fun hd => hdigit (isDigit_of_isDigitAscii hd))
        exact isPlainIdentifier_append (isPlainIdentifier_eq_true.2 ⟨c, rest, rfl, hstart, hrest⟩) hunderscore
  · split
    · exact isPlainIdentifier_append h hunderscore
    · exact h

theorem Fits.isPlainIdentifier {names : List (List Char)} {name attr : List Char} (h : Fits names name attr)
    (hname : isPlainIdentifier name = true) : isPlainIdentifier attr = true := by
  obtain ⟨k, rfl⟩ := h.made
  refine isPlainIdentifier_append (isPlainIdentifier_attributeName hname) (fun c hc => ?_)
  rw [List.eq_of_mem_replicate hc]
  decide

/-! ## Attributes that are not the name -/

theorem attributeName_cases (name : List Char) : attributeName name = name ∨
    (∃ l, attributeName name = l ++ ['_']) ∨ ∃ l, attributeName name = 'f' :: '_' :: l := by
  unfold attributeName
  split
  · split
    · exact .inr (.inr ⟨_, rfl⟩)
    · split
      · exact .inr (.inr ⟨_, rfl⟩)
      · exact .inr (.inl ⟨_, rfl⟩)
  · split
    · exact .inr (.inl ⟨_, rfl⟩)
    · exact .inl rfl

theorem Fits.renamed {names : List (List Char)} {name attr : List Char} (h : Fits names name attr) (hne : attr ≠ name) :
    (∃ l, attr = l ++ ['_']) ∨ ∃ l, attr = 'f' :: '_' :: l := by
  obtain ⟨k, rfl⟩ := h.made
  cases k with
  | zero =>
    have hmoved : attributeName name ≠ name := fun hstays => hne (h.kept hstays)
    simpa [hmoved] using attributeName_cases name
  | succ k => exact .inl ⟨attributeName name ++ List.replicate k '_', by rw [List.replicate_succ', List.append_assoc]⟩

end Naming
end Scaffold
