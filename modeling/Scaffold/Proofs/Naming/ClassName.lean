import Scaffold.Artifact.Names
import Scaffold.Proofs.Naming.Words
import Scaffold.Proofs.Schema.Gate
/-!
# Proofs.Naming.ClassName — which class names are legal

The name of a class is put together from the words of the entity, each with a capital.  That drops the underscores that
kept a digit from leading, and it makes keywords of three words.  So from an identifier comes a legal name exactly if no
digit leads behind its underscores and its only word is none of the constants; with a suffix behind it the name is no
keyword, and only the digit counts (`legal_className_iff`).
-/
namespace Scaffold
namespace Naming

open Text

/-- **A name that a class may have**: an identifier that is no keyword. -/
def Legal (l : List Char) : Prop := l ∈ identifiers ∧ String.ofList l ∉ keywords

def LedByDigit (l : List Char) : Prop := ∃ c, (l.dropWhile (· == '_')).head? = some c ∧ isDigitAscii c = true

/-- The only word, with a capital or without, is one of the constants. -/
def NamesConstant (l : List Char) : Prop :=
  ∃ w ∈ ["false", "False", "none", "None", "true", "True"], words '_' l = [w.toList]

/-! ## Words and their capitals -/

theorem words_cons_self (sep : Char) (l : List Char) : words sep (sep :: l) = words sep l := by
  simp [words, split]

theorem words_cons_of_ne {sep c : Char} (h : c ≠ sep) (l : List Char) :
    ∃ w ws, words sep (c :: l) = (c :: w) :: ws := by
  cases hs : split sep l with
  | nil => exact absurd hs (split_ne_nil sep l)
  | cons p ps => exact ⟨p, ps.filter (fun w => !w.isEmpty), by simp [words, split, h, hs, consPart]⟩

theorem words_eq_nil_iff {sep : Char} : ∀ {l : List Char}, words sep l = [] ↔ l.dropWhile (· == sep) = []
  | [] => by simp [words, split]
  | c :: l => by
    by_cases hc : c = sep
    · rw [hc, words_cons_self, words_eq_nil_iff]
      simp
    · obtain ⟨w, ws, hws⟩ := words_cons_of_ne hc l
      simp [hws, hc]

theorem head?_of_words_eq_cons {sep : Char} : ∀ {l w : List Char} {ws : List (List Char)}, words sep l = w :: ws →
    w.head? = (l.dropWhile (· == sep)).head? ∧ w ≠ []
  | [], w, ws, h => by simp [words, split] at h
  | c :: l, w, ws, h => by
    by_cases hc : c = sep
    · rw [hc, words_cons_self] at h
      simpa [hc] using head?_of_words_eq_cons h
    · obtain ⟨v, vs, hvs⟩ := words_cons_of_ne hc l
      obtain ⟨rfl, -⟩ := List.cons.inj (hvs.symm.trans h)
      simp [hc]

theorem ne_nil_of_mem_words {sep : Char} {l w : List Char} (h : w ∈ words sep l) : w ≠ [] := by
  simpa using (List.mem_filter.1 h).2

def capital (c : Char) : Char := if isLowerAscii c then Char.ofNat (c.toNat - 32) else c

theorem capitalize_cons {c : Char} (h : isIdentifierPart c = true) (w : List Char) :
    capitalize (c :: w) = capital c :: w := by
  rw [capitalize, upperChar, if_pos (toNat_lt_of_part h), capital]
  split <;> rfl

theorem capital_spec {c : Char} (h : isIdentifierPart c = true) : isLowerAscii (capital c) = false ∧
    isDigitAscii (capital c) = isDigitAscii c ∧ isIdentifierStart (capital c) = !isDigitAscii c := by
  have hall : ∀ n < 128, isIdentifierPart (Char.ofNat n) = true → isLowerAscii (capital (Char.ofNat n)) = false ∧
      isDigitAscii (capital (Char.ofNat n)) = isDigitAscii (Char.ofNat n) ∧
      isIdentifierStart (capital (Char.ofNat n)) = !isDigitAscii (Char.ofNat n) := by decide
  exact forall_ascii (P := fun c => isIdentifierPart c = true → isLowerAscii (capital c) = false ∧
    isDigitAscii (capital c) = isDigitAscii c ∧ isIdentifierStart (capital c) = !isDigitAscii c) hall
    (toNat_lt_of_part h) h

/-! ## The name of a class -/

/-- **Pascal case by words**: the words with their capitals, or the text itself where it has none. -/
theorem pascal_eq {l : List Char} (h : isPlainIdentifier l = true) :
    pascal l = if words '_' l = [] then l else ((words '_' l).map capitalize).flatten := by
  have hparts := forall_mem_of_isPlainIdentifier h
  by_cases hmem : '_' ∈ l
  · have hflat : ((words '_' l).map capitalize).flatten = [] ↔ words '_' l = [] := by
      refine ⟨fun hnil => ?_, fun hnil => by rw [hnil]; rfl⟩
      cases hws : words '_' l with
      | nil => rfl
      | cons w ws =>
        -- a word is not empty, and so its capital is among the characters
        have hw : w ∈ words '_' l := by simp [hws]
        obtain ⟨c, v, rfl⟩ := List.exists_cons_of_ne_nil (ne_nil_of_mem_words hw)
        have hc := allParts_of_mem_words hparts hw c List.mem_cons_self
        rw [hws, List.map_cons, List.flatten_cons, capitalize_cons hc] at hnil
        cases hnil
    rw [pascal, if_pos (by simpa using hmem)]
    split
    · rename_i hnil
      rw [if_pos (hflat.1 hnil)]
    · rename_i hne
      rw [if_neg (fun hnil => hne (hflat.2 hnil))]
  · have hone : words '_' l = [l] := by
      rw [words, split_of_not_mem hmem]
      simp [ne_nil_of_isPlainIdentifier h]
    rw [pascal, if_neg (by simpa using hmem), hone]
    simp

theorem pascal_eq_cons {l w : List Char} {c : Char} {ws : List (List Char)} (h : isPlainIdentifier l = true)
    (hws : words '_' l = (c :: w) :: ws) :
    pascal l = capital c :: (w ++ (ws.map capitalize).flatten) ∧ isIdentifierPart c = true := by
  have hc := allParts_of_mem_words (forall_mem_of_isPlainIdentifier h) (hws ▸ List.mem_cons_self) c List.mem_cons_self
  rw [pascal_eq h, hws, if_neg (by simp), List.map_cons, List.flatten_cons, capitalize_cons hc]
  exact ⟨rfl, hc⟩

theorem pascal_ne_nil {l : List Char} (h : isPlainIdentifier l = true) : pascal l ≠ [] := by
  cases hws : words '_' l with
  | nil =>
    rw [pascal_eq h, if_pos hws]
    exact ne_nil_of_isPlainIdentifier h
  | cons w ws =>
    obtain ⟨c, v, rfl⟩ := List.exists_cons_of_ne_nil (head?_of_words_eq_cons hws).2
    rw [(pascal_eq_cons h hws).1]
    exact List.cons_ne_nil _ _

theorem isPlainIdentifier_append_iff {l t : List Char} (hl : l ≠ []) (ht : ∀ c ∈ t, isIdentifierPart c = true) :
    isPlainIdentifier (l ++ t) = true ↔ isPlainIdentifier l = true := by
  obtain ⟨c, r, rfl⟩ := List.exists_cons_of_ne_nil hl
  rw [List.cons_append, isPlainIdentifier, isPlainIdentifier, List.all_append, List.all_eq_true.2 ht, Bool.and_true]

theorem isPlainIdentifier_pascal_iff {l : List Char} (h : isPlainIdentifier l = true) :
    isPlainIdentifier (pascal l) = true ↔ ¬ LedByDigit l := by
  cases hws : words '_' l with
  | nil =>
    have hled : ¬ LedByDigit l := fun ⟨c, hc, _⟩ => by
      rw [words_eq_nil_iff.1 hws] at hc
      cases hc
    rw [pascal_eq h, if_pos hws]
    exact iff_of_true h hled
  | cons w ws =>
    obtain ⟨hhead, hne⟩ := head?_of_words_eq_cons hws
    obtain ⟨c, v, rfl⟩ := List.exists_cons_of_ne_nil hne
    obtain ⟨hpascal, hc⟩ := pascal_eq_cons h hws
    have hparts := allParts_pascal (forall_mem_of_isPlainIdentifier h)
    rw [hpascal] at hparts
    have hrest : ∀ d ∈ v ++ (ws.map capitalize).flatten, isIdentifierPart d = true := (allParts_cons.1 hparts).2
    have hled : LedByDigit l ↔ isDigitAscii c = true := by
      rw [LedByDigit, ← hhead]
      simp
    rw [hpascal, isPlainIdentifier, Bool.and_eq_true, List.all_eq_true, and_iff_left hrest,
      (capital_spec hc).2.2, hled]
    simp

theorem eq_or_eq_of_capital {c k : Char} (hc : isIdentifierPart c = true) (h : capital c = k) :
    c = k ∨ c = Char.ofNat (k.toNat + 32) := by
  have hall : ∀ n < 128, Char.ofNat n = capital (Char.ofNat n) ∨
      Char.ofNat n = Char.ofNat ((capital (Char.ofNat n)).toNat + 32) := by decide
  exact h ▸ forall_ascii (P := fun c => c = capital c ∨ c = Char.ofNat ((capital c).toNat + 32)) hall
    (toNat_lt_of_part hc)

/-- **The name is a capital with small letters behind it** only where that is the only word, since every word begins
with a capital or a digit. -/
theorem words_of_pascal_eq {l t : List Char} {k : Char} (h : isPlainIdentifier l = true) (hk : k ≠ '_')
    (ht : t.all isLowerAscii = true) (heq : pascal l = k :: t) :
    words '_' l = [k :: t] ∨ words '_' l = [Char.ofNat (k.toNat + 32) :: t] := by
  cases hws : words '_' l with
  | nil =>
    rw [pascal_eq h, if_pos hws] at heq
    have hdrop := words_eq_nil_iff.1 hws
    rw [heq, List.dropWhile_cons, if_neg (by simpa using hk)] at hdrop
    cases hdrop
  | cons w ws =>
    obtain ⟨c, v, rfl⟩ := List.exists_cons_of_ne_nil (head?_of_words_eq_cons hws).2
    obtain ⟨hpascal, hc⟩ := pascal_eq_cons h hws
    obtain ⟨hcapital, rfl⟩ := List.cons.inj (hpascal.symm.trans heq)
    cases hmore : ws with
    | nil => rcases eq_or_eq_of_capital hc hcapital with rfl | rfl <;> simp
    | cons u us =>
      have hu : u ∈ words '_' l := by simp [hws, hmore]
      obtain ⟨d, u', rfl⟩ := List.exists_cons_of_ne_nil (ne_nil_of_mem_words hu)
      have hd := allParts_of_mem_words (forall_mem_of_isPlainIdentifier h) hu d List.mem_cons_self
      have hmem : capital d ∈ v ++ (ws.map capitalize).flatten := by
        rw [hmore, List.map_cons, List.flatten_cons, capitalize_cons hd]
        simp
      have hlower := List.all_eq_true.1 ht _ hmem
      rw [(capital_spec hd).1] at hlower
      cases hlower

theorem isLowerAscii_head?_pascal {l : List Char} (h : isPlainIdentifier l = true) :
    ∀ c ∈ (pascal l).head?, isLowerAscii c = false := by
  intro c hc
  cases hws : words '_' l with
  | nil =>
    -- without a word there are only underscores
    rw [pascal_eq h, if_pos hws] at hc
    have hself := List.dropWhile_eq_nil_iff.1 (words_eq_nil_iff.1 hws) c (List.mem_of_mem_head? hc)
    rw [eq_of_beq hself]
    rfl
  | cons w ws =>
    obtain ⟨d, v, rfl⟩ := List.exists_cons_of_ne_nil (head?_of_words_eq_cons hws).2
    obtain ⟨hpascal, hd⟩ := pascal_eq_cons h hws
    rw [hpascal] at hc
    obtain rfl := Option.some.inj hc
    exact (capital_spec hd).1

theorem pascal_mem_keywords_iff {l : List Char} (h : isPlainIdentifier l = true) :
    String.ofList (pascal l) ∈ keywords ↔ NamesConstant l := by
  constructor
  · intro hmem
    -- of the keywords only the constants begin with a capital
    have hconstant : ∀ k ∈ keywords, (k.toList.head?.all (fun c => !isLowerAscii c)) = true →
        k ∈ ["False", "None", "True"] := by decide
    have hk := hconstant _ hmem (by
      rw [String.toList_ofList]
      cases hp : (pascal l).head? with
      | none => rfl
      | some c => simpa using isLowerAscii_head?_pascal h c hp)
    have hword : ∀ k : String, String.ofList (pascal l) = k → pascal l = k.toList := fun k hk => by
      rw [← hk, String.toList_ofList]
    simp only [List.mem_cons, List.not_mem_nil, or_false] at hk
    rcases hk with hk | hk | hk
    · rcases words_of_pascal_eq (t := "alse".toList) h (by decide) rfl (hword _ hk) with hw | hw
      · exact ⟨"False", by decide, hw⟩
      · exact ⟨"false", by decide, hw⟩
    · rcases words_of_pascal_eq (t := "one".toList) h (by decide) rfl (hword _ hk) with hw | hw
      · exact ⟨"None", by decide, hw⟩
      · exact ⟨"none", by decide, hw⟩
    · rcases words_of_pascal_eq (t := "rue".toList) h (by decide) rfl (hword _ hk) with hw | hw
      · exact ⟨"True", by decide, hw⟩
      · exact ⟨"true", by decide, hw⟩
  · rintro ⟨w, hw, hws⟩
    have hall : ∀ w ∈ ["false", "False", "none", "None", "true", "True"],
        String.ofList (capitalize w.toList) ∈ keywords := by decide
    rw [pascal_eq h, if_neg (by simp [hws]), hws]
    simpa using hall w hw

/-- **Which class names are legal**, for every entity whose name is an identifier: the name is one exactly if no digit
leads behind its underscores and it does not name a constant, and with one of the suffixes exactly if no digit leads. -/
theorem legal_className_iff {s : Schema} (h : s.entityName.In identifiers) :
    (Legal s.className.toList ↔
      ¬ LedByDigit s.entityName.shown.toList ∧ ¬ NamesConstant s.entityName.shown.toList) ∧
    ∀ suffix ∈ ["Create", "Update", "Out", "List"],
      (Legal (s.className ++ suffix).toList ↔ ¬ LedByDigit s.entityName.shown.toList) := by
  have hplain := Wording.isPlainIdentifier_of_in h
  rw [Schema.className, String.toList_ofList]
  refine ⟨?_, fun suffix hsuffix => ?_⟩
  · rw [Legal, mem_identifiers, isPlainIdentifier_pascal_iff hplain, pascal_mem_keywords_iff hplain]
  · -- no keyword ends like that
    have hkeyword : ∀ suffix ∈ ["Create", "Update", "Out", "List"], ∀ k ∈ keywords,
        suffix.toList.isSuffixOf k.toList = false := by decide
    have hfree : String.ofList (pascal s.entityName.shown.toList ++ suffix.toList) ∉ keywords := fun hmem => by
      have := hkeyword suffix hsuffix _ hmem
      rw [String.toList_ofList, ← Bool.not_eq_true, List.isSuffixOf_iff_suffix] at this
      exact this (List.suffix_append _ _)
    have hparts : ∀ suffix ∈ ["Create", "Update", "Out", "List"], suffix.toList.all isIdentifierPart = true := by decide
    rw [Legal, mem_identifiers, String.toList_append, String.toList_ofList,
      isPlainIdentifier_append_iff (pascal_ne_nil hplain) (List.all_eq_true.1 (hparts suffix hsuffix)),
      isPlainIdentifier_pascal_iff hplain]
    exact and_iff_left hfree

/-- **The class of an order item is legal**, alone and with each suffix. -/
theorem legal_className_orderItem : let s : Schema := { entityName := "order_item" }
    s.className = "OrderItem" ∧ Legal s.className.toList ∧
      ∀ suffix ∈ ["Create", "Update", "Out", "List"], Legal (s.className ++ suffix).toList := by
  have hname : (Wording.ofText "order_item").In identifiers :=
    ⟨"order_item".toList, mem_identifiers.2 (by decide), rfl⟩
  have hshown : (Wording.ofText "order_item").shown = "order_item" := Wording.shown_ofText _
  obtain ⟨halone, hsuffix⟩ := legal_className_iff (s := { entityName := "order_item" }) hname
  rw [hshown] at halone hsuffix
  have hled : ¬ LedByDigit "order_item".toList := by
    rintro ⟨c, hc, hdigit⟩
    obtain rfl : 'o' = c := Option.some.inj hc
    cases hdigit
  have hconstant : ¬ NamesConstant "order_item".toList := by
    rintro ⟨w, -, hw⟩
    have htwo : words '_' "order_item".toList = ["order".toList, "item".toList] := by decide
    exact absurd (congrArg List.length (htwo.symm.trans hw)) (by simp)
  exact ⟨by decide, halone.2 ⟨hled, hconstant⟩, fun suffix h => (hsuffix suffix h).2 hled⟩

/-- **Identifiers without a legal class name**: a constant in small letters becomes the constant, and a digit behind an
underscore comes to lead. -/
theorem className_not_legal : "none".toList ∈ identifiers ∧ ¬ Legal (pascal "none".toList) ∧
    "_2nd".toList ∈ identifiers ∧ ¬ Legal (pascal "_2nd".toList) := by
  refine ⟨mem_identifiers.2 (by decide), fun h => h.2 (by decide), mem_identifiers.2 (by decide), fun h => ?_⟩
  exact absurd (mem_identifiers.1 h.1) (by decide)

end Naming
end Scaffold
