import Scaffold.Proofs.Naming.Attribute
/-!
# Proofs.Naming.LegalAttribute — attributes that a class can have

A free name is looked for by adding underscores for as long as it takes (`Settles`).  The search always comes to an end,
and `firstFree` looks far enough ahead to find it (`settles_iff`); so the choices for a list of names have one outcome
(`choosesAll_iff`).  A plain identifier keeps its name exactly if a class can have it as an attribute
(`LegalAttribute`), and every attribute that is chosen is one that it can have (`attributes_legal_and_apart`).
-/
namespace Scaffold
namespace Naming

open Text

/-! ## The search for a free name -/

/-- **The search for a free name**: an underscore is added as long as the name is taken. -/
inductive Settles (taken : List (List Char)) : List Char → List Char → Prop where
  | free {a : List Char} (h : a ∉ taken) : Settles taken a a
  | longer {a b : List Char} (h : a ∈ taken) (next : Settles taken (a ++ ['_']) b) : Settles taken a b

theorem Settles.unique {taken : List (List Char)} {a b c : List Char} (hb : Settles taken a b)
    (hc : Settles taken a c) : b = c := by
  induction hb with
  | free h =>
    cases hc with
    | free => rfl
    | longer h' => exact absurd h' h
  | longer h _ ih =>
    cases hc with
    | free h' => exact absurd h h'
    | longer _ hc => exact ih hc

theorem settles_of_firstFree {taken : List (List Char)} : ∀ {n : Nat} {a : List Char}, firstFree taken n a ∉ taken →
    Settles taken a (firstFree taken n a)
  | 0, _, h => .free h
  | n + 1, a, h => by
    unfold firstFree at h ⊢
    by_cases ha : a ∈ taken
    · rw [if_pos ha] at h ⊢
      exact .longer ha (settles_of_firstFree h)
    · rw [if_neg ha]
      exact .free ha

theorem settles_iff {taken : List (List Char)} {a b : List Char} :
    Settles taken a b ↔ b = firstFree taken taken.length a := by
  have hfree : Settles taken a (firstFree taken taken.length a) := settles_of_firstFree (firstFree_not_mem taken a)
  constructor
  · exact fun h => h.unique hfree
  · rintro rfl
    exact hfree

/-- **The choice of an attribute for one more name**, with the search that it takes. -/
inductive Chooses (s : Choice) (name : List Char) : Choice → Prop where
  | kept (h : attributeName name = name) : Chooses s name { s with chosen := s.chosen.set name name }
  | renamed {a : List Char} (h : attributeName name ≠ name) (search : Settles s.taken (attributeName name) a) :
    Chooses s name ⟨s.chosen.set name a, a :: s.taken⟩

inductive ChoosesAll : Choice → List (List Char) → Choice → Prop where
  | nil {s : Choice} : ChoosesAll s [] s
  | cons {s t u : Choice} {name : List Char} {rest : List (List Char)} (first : Chooses s name t)
    (others : ChoosesAll t rest u) : ChoosesAll s (name :: rest) u

theorem chooses_iff {s t : Choice} {name : List Char} : Chooses s name t ↔ t = choose s name := by
  unfold choose
  by_cases hname : attributeName name = name
  · simp only [hname, if_true]
    constructor
    · rintro (_ | ⟨hmoved, -⟩)
      · rfl
      · exact absurd hname hmoved
    · rintro rfl
      exact .kept hname
  · simp only [hname, if_false]
    constructor
    · rintro (hkept | ⟨-, hsearch⟩)
      · exact absurd hkept hname
      · rw [settles_iff.1 hsearch]
    · rintro rfl
      exact .renamed hname (settles_iff.2 rfl)

/-- **The choices for any names have one outcome.** -/
theorem choosesAll_iff : ∀ {names : List (List Char)} {s t : Choice}, ChoosesAll s names t ↔ t = names.foldl choose s
  | [], s, t => by
    constructor
    · rintro ⟨⟩
      rfl
    · rintro rfl
      exact .nil
  | name :: rest, s, t => by
    constructor
    · rintro (_ | ⟨hfirst, hothers⟩)
      rw [List.foldl_cons, ← chooses_iff.1 hfirst]
      exact choosesAll_iff.1 hothers
    · intro h
      exact .cons (chooses_iff.2 rfl) (choosesAll_iff.2 h)

/-! ## Every name has an entry -/

theorem map_fst_foldl_choose : ∀ {names : List (List Char)} {s : Choice}, (s.chosen.map Prod.fst ++ names).Nodup →
    ((names.foldl choose s).chosen.map Prod.fst) = s.chosen.map Prod.fst ++ names
  | [], s, _ => by simp
  | name :: rest, s, h => by
    obtain ⟨a, hchosen, -⟩ := choose_eq s name
    have hnew : name ∉ s.chosen.map Prod.fst := fun hmem => List.disjoint_of_nodup_append h hmem List.mem_cons_self
    have hkeys : (choose s name).chosen.map Prod.fst = s.chosen.map Prod.fst ++ [name] := by
      rw [hchosen]
      exact (Entries.map_fst_set _ _ _).trans (if_neg hnew)
    have hmore : s.chosen.map Prod.fst ++ name :: rest = (choose s name).chosen.map Prod.fst ++ rest := by simp [hkeys]
    rw [hmore] at h ⊢
    exact map_fst_foldl_choose h

theorem attributeNames_eq {names : List (List Char)} (h : names.Nodup) :
    attributeNames names = names.map (fun n => (n, attributeOf names n)) := by
  have hkeys : (attributeNames names).map Prod.fst = names := map_fst_foldl_choose (s := ⟨[], identity :: names⟩) h
  have hentry : ∀ e ∈ attributeNames names, e = (e.1, attributeOf names e.1) := by
    rintro ⟨n, a⟩ he
    have hget : (attributeNames names).get? n = some a := (Entries.get?_eq_some_iff n a _ (hkeys.symm ▸ h)).2 he
    rw [attributeOf, hget, Option.getD_some]
  calc attributeNames names
      = (attributeNames names).map (fun e => (e.1, attributeOf names e.1)) := by
        rw [← List.map_congr_left hentry, List.map_id']
    _ = ((attributeNames names).map Prod.fst).map (fun n => (n, attributeOf names n)) := by rw [List.map_map]; rfl
    _ = names.map (fun n => (n, attributeOf names n)) := by rw [hkeys]

/-! ## Legal attributes -/

/-- **An attribute that a class can have**: a plain identifier without an underscore in front, and none of the words
that are taken. -/
structure LegalAttribute (a : List Char) : Prop where
  plain : isPlainIdentifier a = true
  front : a.head? ≠ some '_'
  keyword : String.ofList a ∉ keywords
  reserved : String.ofList a ∉ reserved

theorem ne_of_dropWhile {l rest : List Char} {c : Char} (h : l.dropWhile (· == '_') = c :: rest) : c ≠ '_' := by
  have hhead := List.head?_dropWhile_not (· == '_') l
  rw [h] at hhead
  simpa using hhead

theorem head?_attributeName {name : List Char} (h : isPlainIdentifier name = true) :
    (attributeName name).head? ≠ some '_' := by
  unfold attributeName
  split
  · split
    · simp
    · rename_i c rest hdrop
      split
      · simp
      · simpa using ne_of_dropWhile hdrop
  · rename_i hfront
    have hname : name.head? ≠ some '_' := fun hhead => by
      obtain ⟨rest, rfl⟩ := List.head?_eq_some_iff.1 hhead
      exact hfront rest rfl
    split
    · obtain ⟨c, rest, rfl, -⟩ := isPlainIdentifier_eq_true.1 h
      simpa using hname
    · exact hname

theorem attributeName_eq_self_iff {name : List Char} (h : isPlainIdentifier name = true) :
    attributeName name = name ↔ LegalAttribute name := by
  constructor
  · intro hkept
    have hfront : name.head? ≠ some '_' := hkept ▸ head?_attributeName h
    have htaken : String.ofList name ∉ keywords ++ reserved := fun hmem => by
      unfold attributeName at hkept
      split at hkept
      · exact hfront rfl
      · rw [if_pos hmem] at hkept
        simpa using congrArg List.length hkept
    exact ⟨h, hfront, fun hmem => htaken (List.mem_append_left _ hmem),
      fun hmem => htaken (List.mem_append_right _ hmem)⟩
  · intro hlegal
    have htaken : String.ofList name ∉ keywords ++ reserved := fun hmem =>
      (List.mem_append.1 hmem).elim hlegal.keyword hlegal.reserved
    unfold attributeName
    split
    · exact absurd rfl hlegal.front
    · exact if_neg htaken

theorem taken_words : ∀ w ∈ keywords ++ reserved, w.toList.getLast? ≠ some '_' ∧ w.toList.take 2 ≠ ['f', '_'] := by
  decide +kernel

theorem not_taken {a : List Char} (h : (∃ l, a = l ++ ['_']) ∨ ∃ l, a = 'f' :: '_' :: l) :
    String.ofList a ∉ keywords ++ reserved := fun hmem => by
  obtain ⟨hlast, hfront⟩ := taken_words _ hmem
  rw [String.toList_ofList] at hlast hfront
  rcases h with ⟨l, rfl⟩ | ⟨l, rfl⟩
  · simp at hlast
  · simp at hfront

section

variable {names : List (List Char)} {name attr : List Char}

theorem Fits.front (h : Fits names name attr) (hname : Naming.isPlainIdentifier name = true) :
    attr.head? ≠ some '_' := by
  obtain ⟨k, rfl⟩ := h.made
  obtain ⟨c, rest, heq, -⟩ := isPlainIdentifier_eq_true.1 (isPlainIdentifier_attributeName hname)
  have hfront := head?_attributeName hname
  rw [heq] at hfront ⊢
  exact hfront

theorem Fits.eq_name_iff (h : Fits names name attr) (hname : Naming.isPlainIdentifier name = true) :
    attr = name ↔ attributeName name = name := by
  refine ⟨fun heq => ?_, h.kept⟩
  have hfront : name.head? ≠ some '_' := heq ▸ h.front hname
  obtain ⟨k, hmade⟩ := h.made
  -- where nothing is moved the attribute is the name with underscores behind it, and so here with none
  have hlonger : ∃ l, attributeName name = name ++ l := by
    unfold attributeName
    split
    · exact absurd rfl hfront
    · split
      · exact ⟨_, rfl⟩
      · exact ⟨[], (List.append_nil name).symm⟩
  obtain ⟨l, hl⟩ := hlonger
  have hlength := congrArg List.length (hmade.symm.trans heq)
  rw [hl, List.length_append, List.length_append] at hlength
  have hnil : l = [] := List.length_eq_zero_iff.1 (by omega)
  rw [hl, hnil, List.append_nil]

/-- **Every attribute that fits is legal.** -/
theorem Fits.legalAttribute (h : Fits names name attr) (hname : Naming.isPlainIdentifier name = true) :
    LegalAttribute attr := by
  by_cases heq : attr = name
  · exact heq ▸ (attributeName_eq_self_iff hname).1 ((h.eq_name_iff hname).1 heq)
  · have htaken := not_taken (h.renamed heq)
    exact ⟨h.isPlainIdentifier hname, h.front hname, fun hmem => htaken (List.mem_append_left _ hmem),
      fun hmem => htaken (List.mem_append_right _ hmem)⟩

end

/-- **The attributes of distinct identifiers are legal and do not collide.**  The choices come to an end, whatever the
order of the names, and give every name an attribute.  No two names get the same one; every attribute is one that a
class can have; none is the name of another field; one that is not the name of its field is not the identity either; and
a name is kept exactly if a class can have it. -/
theorem attributes_legal_and_apart {names : List (List Char)} (hnodup : names.Nodup)
    (hplain : ∀ n ∈ names, isPlainIdentifier n = true) :
    (∃ s : Choice, s.chosen = attributeNames names ∧ ∀ t, ChoosesAll ⟨[], identity :: names⟩ names t ↔ t = s) ∧
    attributeNames names = names.map (fun n => (n, attributeOf names n)) ∧
    (∀ m ∈ names, ∀ n ∈ names, attributeOf names m = attributeOf names n → m = n) ∧
    ∀ n ∈ names,
      LegalAttribute (attributeOf names n) ∧
      (∀ m ∈ names, m ≠ n → attributeOf names n ≠ m) ∧
      (attributeOf names n ≠ n → attributeOf names n ≠ identity) ∧
      (attributeOf names n = n ↔ LegalAttribute n) := by
  obtain ⟨hfits, hdistinct⟩ := attributeOf_fits hnodup
  refine ⟨⟨_, rfl, fun t => choosesAll_iff⟩, attributeNames_eq hnodup, hdistinct, fun n hn => ?_⟩
  have hn' := hplain n hn
  refine ⟨(hfits n hn).legalAttribute hn', fun m hm hne heq => ?_, fun hne heq => ?_, ?_⟩
  · have hmoved : attributeOf names n ≠ n := heq ▸ hne
    exact (hfits n hn).fresh hmoved (heq ▸ List.mem_cons_of_mem _ hm)
  · exact (hfits n hn).fresh hne (heq ▸ List.mem_cons_self)
  · rw [(hfits n hn).eq_name_iff hn', attributeName_eq_self_iff hn']

def rivals : List (List Char) := ["_class".toList, "class".toList, "class_".toList, "__class".toList, "_1".toList]

/-- **Names that ask for the same attribute get different ones.** -/
theorem rivals_apart : rivals.Nodup ∧ (∀ n ∈ rivals, isPlainIdentifier n = true) ∧
    attributeNames rivals = [("_class".toList, "class__".toList), ("class".toList, "class___".toList),
      ("class_".toList, "class_".toList), ("__class".toList, "class____".toList), ("_1".toList, "f_1".toList)] ∧
    (∀ n ∈ rivals, LegalAttribute (attributeOf rivals n)) ∧ LegalAttribute "class_".toList := by
  have hnodup : rivals.Nodup := by decide +kernel
  have hplain : ∀ n ∈ rivals, isPlainIdentifier n = true := by decide +kernel
  obtain ⟨-, -, -, hall⟩ := attributes_legal_and_apart hnodup hplain
  refine ⟨hnodup, hplain, by decide +kernel, fun n hn => (hall n hn).1, ?_⟩
  exact (hall "class_".toList (by decide +kernel)).2.2.2.1 (by decide +kernel)

end Naming
end Scaffold
