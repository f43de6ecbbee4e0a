import Mathlib.Data.List.Chain
import Scaffold.Proofs.Source.Block
/-!
# Proofs.Source.Weave — lines with literals in them

A line that holds texts of users is woven: pieces that are always the same with literals between them (`weave`).  What
the pieces do not have the line does not have either: it is one line, and it holds no mark that ends in a word between
quotes, since a quote inside a literal stands behind a backslash, one that opens a literal stands behind a piece, and
one that closes it stands before a piece (`Woven.not_infix`).
-/
namespace Scaffold
namespace Source

open Text

/-- **Pieces with literals between them.** -/
def weave (p : List Char) (rest : List (List Sign × List Char)) : List Char :=
  p ++ rest.flatMap (fun r => literal r.1 ++ r.2)

theorem weave_cons (p : List Char) (l : List Sign) (q : List Char) (rest : List (List Sign × List Char)) :
    weave p ((l, q) :: rest) = p ++ literal l ++ weave q rest := by
  simp [weave]

theorem weave_cons_eq_append (p : List Char) (l : List Sign) (q : List Char) (rest : List (List Sign × List Char)) :
    weave p ((l, q) :: rest) = p ++ '"' :: (l.flatMap literalSign ++ '"' :: weave q rest) := by
  simp [weave_cons, literal]

def Woven (pieces : List (List Char)) (l : List Char) : Prop :=
  ∃ p rest, l = weave p rest ∧ p ∈ pieces ∧ ∀ r ∈ rest, r.2 ∈ pieces

theorem Woven.of_mem {pieces : List (List Char)} {p : List Char} (h : p ∈ pieces) : Woven pieces p :=
  ⟨p, [], by simp [weave], h, List.forall_mem_nil _⟩

theorem Woven.mono {pieces more : List (List Char)} (h : pieces ⊆ more) {l : List Char} (hl : Woven pieces l) :
    Woven more l := by
  obtain ⟨p, rest, rfl, hp, hrest⟩ := hl
  exact ⟨p, rest, rfl, h hp, fun r hr => h (hrest r hr)⟩

theorem Woven.append_literal {pieces : List (List Char)} {l q : List Char} (h : Woven pieces l) (w : List Sign)
    (hq : q ∈ pieces) : Woven pieces (l ++ literal w ++ q) := by
  obtain ⟨p, rest, rfl, hp, hrest⟩ := h
  refine ⟨p, rest ++ [(w, q)], ?_, hp, List.forall_mem_append.2 ⟨hrest, List.forall_mem_singleton.2 hq⟩⟩
  simp only [weave, List.flatMap_append, List.flatMap_singleton, List.append_assoc]

theorem Woven.append_join {pieces : List (List Char)} {sep last : List Char} (hsep : sep ∈ pieces)
    (hlast : last ∈ pieces) : ∀ {ws : List (List Sign)} {l : List Char}, Woven pieces l → ∀ w,
      Woven pieces (l ++ join sep ((w :: ws).map literal) ++ last)
  | [], _, h, w => h.append_literal w hlast
  | v :: ws, l, h, w => by
    have ih : Woven pieces (l ++ literal w ++ sep ++ join sep ((v :: ws).map literal) ++ last) :=
      Woven.append_join hsep hlast (h.append_literal w hsep) v
    rw [List.map_cons, join_cons sep (by simp)]
    simpa only [List.append_assoc] using ih

theorem Woven.not_mem {pieces : List (List Char)} {c : Char} (hc : ¬ IsShown c) (h : ∀ p ∈ pieces, c ∉ p)
    {l : List Char} (hl : Woven pieces l) : c ∉ l := by
  obtain ⟨p, rest, rfl, hp, hrest⟩ := hl
  rw [weave, List.mem_append, List.mem_flatMap]
  rintro (hmem | ⟨r, hr, hmem⟩)
  · exact h p hp hmem
  · rcases List.mem_append.1 hmem with hmem | hmem
    · exact hc (isShown_of_mem_literal hmem)
    · exact h r.2 (hrest r hr) hmem

/-! ## Quotes inside of literals -/

/-- **Every quote stands behind a backslash.** -/
def Escaped (l : List Char) : Prop := ∀ u ∈ (split '"' l).dropLast, u.getLast? = some '\\'

theorem Escaped.nil : Escaped [] := by simp [Escaped, split]

theorem Escaped.append_left {u l : List Char} (hu : '"' ∉ u) (hl : Escaped l) : Escaped (u ++ l) := by
  rw [Escaped, split_prefixed hu]
  rw [Escaped] at hl
  rcases hs : split '"' l with _ | ⟨p, _ | ⟨q, ps⟩⟩
  · simp [prefixed]
  · simp [prefixed]
  · rw [hs] at hl
    simp only [prefixed, List.dropLast_cons_cons, List.forall_mem_cons, List.getLast?_append] at hl ⊢
    exact ⟨by rw [hl.1]; rfl, hl.2⟩

theorem Escaped.quote {l : List Char} (hl : Escaped l) : Escaped ('\\' :: '"' :: l) := by
  have hsplit : split '"' ('\\' :: '"' :: l) = ['\\'] :: split '"' l := split_append_cons (l := ['\\']) (by decide) l
  obtain ⟨p, ps, hps⟩ := List.exists_cons_of_ne_nil (split_ne_nil '"' l)
  rw [Escaped, hsplit, hps, List.dropLast_cons_cons, ← hps]
  exact List.forall_mem_cons.2 ⟨rfl, hl⟩

theorem quote_not_mem_unitEscape (n : Nat) : '"' ∉ unitEscape n := by
  have hdigit : ∀ m < 16, hexDigit m ≠ '"' := by decide
  intro hmem
  rcases List.mem_cons.1 hmem with heq | hmem
  · cases heq
  · rcases List.mem_cons.1 hmem with heq | hmem
    · cases heq
    · obtain ⟨m, hm, heq⟩ := @mem_hex '"' 4 n hmem
      exact hdigit m hm heq.symm

theorem Written.escaped {c : Char} {u l : List Char} (h : Written c u) (hl : Escaped l) : Escaped (u ++ l) := by
  cases h with
  | @short e =>
    by_cases he : e = '"'
    · subst he
      exact hl.quote
    · exact hl.append_left (by simp [Ne.symm he])
  | plain h => exact hl.append_left (by simp [Ne.symm h.2.1])
  | unit => exact hl.append_left (quote_not_mem_unitEscape _)
  | pair =>
    rw [List.append_assoc]
    exact (hl.append_left (quote_not_mem_unitEscape _)).append_left (quote_not_mem_unitEscape _)

theorem escaped_flatMap_literalSign : ∀ l : List Sign, Escaped (l.flatMap literalSign)
  | [] => Escaped.nil
  | .char c :: l => (written_literalChar c).escaped (escaped_flatMap_literalSign l)
  | .half _ :: l => (escaped_flatMap_literalSign l).append_left (quote_not_mem_unitEscape _)

/-! ## Marks -/

/-- **A mark**: a word between quotes, and what stands before it.  It begins outside of literals or inside of one, but
no backslash makes its quote a part of the literal. -/
structure Mark where
  before : String
  word : String
  quote_not_mem_before : '"' ∉ before.toList := by decide
  quote_not_mem_word : '"' ∉ word.toList := by decide
  getLast?_before : before.toList.getLast? ≠ none ∧ before.toList.getLast? ≠ some '\\' := by decide
deriving DecidableEq, Repr

namespace Mark

def text (m : Mark) : List Char := m.before.toList ++ '"' :: m.word.toList ++ ['"']

/-- The mark does not stand around a quote with `u` before it and `v` behind it, up to the next quotes. -/
def Misses (m : Mark) (u v : List Char) : Prop := ¬ (m.before.toList <:+ u ∧ v = m.word.toList)

instance (m : Mark) (u v : List Char) : Decidable (m.Misses u v) := inferInstanceAs (Decidable (¬ _))

/-- **The piece goes with literals**: the mark does not occur in it, and it neither ends like what stands before the
word nor begins like the word. -/
def Guards (m : Mark) (p : List Char) : Prop :=
  (split '"' p).IsChain m.Misses ∧ ¬ m.before.toList <:+ p ∧ (split '"' p).head? ≠ some m.word.toList

instance (m : Mark) (p : List Char) : Decidable (m.Guards p) := inferInstanceAs (Decidable (_ ∧ _))

end Mark

variable {m : Mark}

theorem exists_getLast?_split {a : List Char} (ha : '"' ∉ a) : ∀ x : List Char,
    ∃ u, (split '"' (x ++ a)).getLast? = some u ∧ a <:+ u
  | [] => ⟨a, by rw [List.nil_append, split_of_not_mem ha]; rfl, List.suffix_refl a⟩
  | c :: x => by
    obtain ⟨u, hu, hsuffix⟩ := exists_getLast?_split ha x
    rw [List.cons_append, split]
    rcases hs : split '"' (x ++ a) with _ | ⟨p, _ | ⟨q, ps⟩⟩
    · rw [hs] at hu
      cases hu
    · rw [hs] at hu
      obtain rfl : p = u := Option.some.inj hu
      split
      · exact ⟨p, rfl, hsuffix⟩
      · exact ⟨c :: p, rfl, hsuffix.trans (List.suffix_cons c p)⟩
    · rw [hs, List.getLast?_cons_cons] at hu
      split
      · exact ⟨u, by rw [List.getLast?_cons_cons, List.getLast?_cons_cons, hu], hsuffix⟩
      · exact ⟨u, by rw [consPart, List.getLast?_cons_cons, hu], hsuffix⟩

theorem not_infix_of_isChain {l : List Char} (h : (split '"' l).IsChain m.Misses) : ¬ m.text <:+: l := by
  rintro ⟨x, y, rfl⟩
  have htext : x ++ m.text ++ y = x ++ m.before.toList ++ '"' :: (m.word.toList ++ '"' :: y) := by simp [Mark.text]
  rw [htext, split_append, split_append_cons m.quote_not_mem_word, List.isChain_append] at h
  obtain ⟨u, hu, hsuffix⟩ := exists_getLast?_split m.quote_not_mem_before x
  exact h.2.2 u hu m.word.toList rfl ⟨hsuffix, rfl⟩

theorem suffix_of_getLast?_split {l u : List Char} (h : (split '"' l).getLast? = some u) : u <:+ l := by
  obtain ⟨ps, hps⟩ := List.getLast?_eq_some_iff.1 h
  obtain ⟨x, hx⟩ : ∃ x, join ['"'] (ps ++ [u]) = x ++ u := by
    rw [← List.nil_append u, join_append_cons]
    exact ⟨_, rfl⟩
  rw [← join_split '"' l, hps, hx]
  exact List.suffix_append x u

theorem head?_split_weave (p : List Char) (rest : List (List Sign × List Char)) :
    (split '"' (weave p rest)).head? = (split '"' p).head? := by
  cases rest with
  | nil => simp [weave]
  | cons r rest =>
    obtain ⟨q, ps, hps⟩ := List.exists_cons_of_ne_nil (split_ne_nil '"' p)
    rw [weave_cons_eq_append, split_append, hps]
    rfl

theorem Escaped.isChain {l : List Char} (h : Escaped l) : (split '"' l).IsChain m.Misses := by
  rw [Escaped] at h
  generalize split '"' l = ps at h
  induction ps with
  | nil => exact List.isChain_nil
  | cons u ps ih =>
    cases ps with
    | nil => exact List.isChain_singleton u
    | cons v ps =>
      rw [List.dropLast_cons_cons, List.forall_mem_cons] at h
      refine List.isChain_cons_cons.2 ⟨fun hmark => ?_, ih h.2⟩
      obtain ⟨x, hx⟩ := hmark.1
      rw [← hx, List.getLast?_append] at h
      cases hlast : m.before.toList.getLast? with
      | none => exact m.getLast?_before.1 hlast
      | some c =>
        rw [hlast] at h
        exact m.getLast?_before.2 (hlast.trans h.1)

/-- A mark stands around no quote of a text that is woven from guarded pieces. -/
theorem isChain_weave : ∀ {rest : List (List Sign × List Char)} {p : List Char}, m.Guards p →
    (∀ r ∈ rest, m.Guards r.2) → (split '"' (weave p rest)).IsChain m.Misses
  | [], p, hp, _ => by simpa [weave] using hp.1
  | (l, q) :: rest, p, hp, h => by
    obtain ⟨hq, hrest⟩ := List.forall_mem_cons.1 h
    rw [weave_cons_eq_append, split_append, split_append, List.isChain_append, List.isChain_append]
    refine ⟨hp.1, ⟨(escaped_flatMap_literalSign l).isChain, isChain_weave hq hrest, fun u _ v hv hmark => ?_⟩,
      fun u hu v _ hmark => ?_⟩
    · -- behind the quote that closes the literal stands a piece
      rw [head?_split_weave, hmark.2] at hv
      exact hq.2.2 hv
    · -- before the quote that opens it stands a piece
      exact hp.2.1 (hmark.1.trans (suffix_of_getLast?_split hu))

/-- **A mark does not occur in a woven line** whose pieces are guarded. -/
theorem Woven.not_infix {pieces : List (List Char)} (h : ∀ p ∈ pieces, m.Guards p) {l : List Char}
    (hl : Woven pieces l) : ¬ m.text <:+: l := by
  obtain ⟨p, rest, rfl, hp, hrest⟩ := hl
  exact not_infix_of_isChain (isChain_weave (h p hp) (fun r hr => h r.2 (hrest r hr)))

/-! ## Occurrences -/

def occurs (w : List Char) : List Char → Bool
  | [] => w.isEmpty
  | c :: l => w.isPrefixOf (c :: l) || occurs w l

theorem occurs_eq_true_iff {w : List Char} : ∀ {l : List Char}, occurs w l = true ↔ w <:+: l
  | [] => by simp [occurs]
  | c :: l => by rw [occurs, Bool.or_eq_true, List.isPrefixOf_iff_prefix, occurs_eq_true_iff, List.infix_cons_iff]

theorem infix_append_cons_iff {α : Type} {c : α} {w : List α} (h : c ∉ w) {p rest : List α} :
    w <:+: p ++ c :: rest ↔ w <:+: p ∨ w <:+: rest := by
  constructor
  · rintro ⟨x, y, hxy⟩
    rcases List.append_eq_append_iff.1 hxy with ⟨z, hz, -⟩ | ⟨z, hz, hrest⟩
    · exact .inl ⟨x, z, hz.symm⟩
    · cases z with
      | nil => exact .inl ⟨x, [], by simpa using hz⟩
      | cons d z =>
        obtain ⟨rfl, -⟩ := List.cons.inj hrest
        -- the separator stands in what comes before, for it is not in the text looked for
        rcases List.append_eq_append_iff.1 hz with ⟨v, -, hv⟩ | ⟨v, -, hv⟩
        · exact absurd (hv ▸ List.mem_append_right v List.mem_cons_self) h
        · cases v with
          | nil => exact absurd (by rw [← List.nil_append w, ← hv]; exact List.mem_cons_self) h
          | cons e v =>
            obtain ⟨rfl, hz'⟩ := List.cons.inj hv
            obtain ⟨-, hrest⟩ := List.cons.inj hrest
            exact .inr ⟨v, y, by rw [hrest, hz']; rfl⟩
  · rintro (h | h)
    · exact h.trans (List.prefix_append p _).isInfix
    · exact h.trans ⟨p ++ [c], [], by simp⟩

theorem infix_lines_iff {w : List Char} (h : '\n' ∉ w) (hne : w ≠ []) {lines : List String} (hlines : lines ≠ []) :
    w <:+: ("\n".intercalate lines ++ "\n").toList ↔ ∃ l ∈ lines, w <:+: l.toList := by
  have hfeeds : ∀ ps : List (List Char), w <:+: ps.flatMap (fun p => p ++ ['\n']) ↔ ∃ p ∈ ps, w <:+: p := by
    intro ps
    induction ps with
    | nil => simp [hne]
    | cons p ps ih =>
      rw [List.flatMap_cons, List.append_assoc, List.singleton_append, infix_append_cons_iff h, ih]
      simp
  rw [toList_lines hlines, hfeeds]
  simp

end Source
end Scaffold
