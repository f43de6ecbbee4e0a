import Mathlib.Data.List.Chain
import Mathlib.Data.List.TakeWhile
import Scaffold.Artifact.Script
import Scaffold.Proofs.Text.Parts
/-!
# Proofs.Artifact.Layout — what laying out a statement does to it

Laying out acts on each run of white space for itself: every character that is none stays, and so does the order
(`laid_append_ink`, `relaid_append_ink`).  `relaid` is what becomes of a text between two such characters, for instance
between quotes, and it leaves exactly those texts alone that are `Kept` (`relaid_eq_self_iff`): all line ends are line
feeds, before a line feed stands no white space but a line feed, and behind a line feed no tab.
-/
namespace Scaffold
namespace Script

open Text

/-! ## Lines -/

theorem isBlank_of_isBreak {c : Char} (h : isBreak c = true) : isBlank c = true := by
  simp only [isBreak, isBlank, Bool.or_eq_true, Bool.and_eq_true, decide_eq_true_eq, beq_iff_eq] at h ⊢
  omega

theorem isBreak_of_ink {c : Char} (h : isBlank c = false) : isBreak c = false := by
  rw [← Bool.not_eq_true] at h ⊢
  exact fun hbreak => h (isBlank_of_isBreak hbreak)

theorem ne_of_ink {c d : Char} (h : isBlank c = false) (hd : isBlank d = true) : c ≠ d := by
  rintro rfl
  rw [h] at hd
  cases hd

theorem lines_cons_of_not_isBreak {c : Char} (h : isBreak c = false) (l : List Char) :
    lines (c :: l) = consPart c (lines l) := by
  rw [lines.eq_def]
  split
  · rename_i heq
    cases heq
  · rename_i heq
    obtain ⟨rfl, -⟩ := List.cons.inj heq
    cases h
  · rename_i heq
    obtain ⟨rfl, rfl⟩ := List.cons.inj heq
    simp [h]

theorem lines_cons_of_isBreak {c : Char} (h : isBreak c = true) {l : List Char}
    (hl : c = '\r' → l.head? ≠ some '\n') : lines (c :: l) = [] :: lines l := by
  rw [lines.eq_def]
  split
  · rename_i heq
    cases heq
  · rename_i heq
    obtain ⟨rfl, rfl⟩ := List.cons.inj heq
    exact absurd rfl (hl rfl)
  · rename_i heq
    obtain ⟨rfl, rfl⟩ := List.cons.inj heq
    simp [h]

theorem lines_return (l : List Char) : lines ('\r' :: '\n' :: l) = [] :: lines l := by rw [lines]

theorem lines_prefixed {q : List Char} (hq : ∀ c ∈ q, isBreak c = false) {l : List Char} (hl : lines l ≠ []) :
    lines (q ++ l) = prefixed q (lines l) := by
  induction q with
  | nil => exact (prefixed_nil hl).symm
  | cons c q ih =>
    rw [List.cons_append, lines_cons_of_not_isBreak (hq c List.mem_cons_self),
      ih (fun d hd => hq d (List.mem_cons_of_mem c hd)), consPart_prefixed]

/-- **Runs of white space, case by case**: at the end, before a pair of return and line feed, before another line end,
and before white space inside of a line. -/
theorem run_induction {P : List Char → Prop} (nil : P []) (pair : ∀ l, P l → P ('\r' :: '\n' :: l))
    (lineEnd : ∀ c l, isBreak c = true → (c = '\r' → l.head? ≠ some '\n') → P l → P (c :: l))
    (inner : ∀ c l, isBreak c = false → P l → P (c :: l)) : ∀ l, P l := by
  intro l
  induction l using lines.induct with
  | case1 => exact nil
  | case2 l ih => exact pair l ih
  | case3 c l hpair hbreak ih =>
    refine lineEnd c l hbreak (fun hr hl => ?_) ih
    cases l with
    | nil => cases hl
    | cons d l => exact hpair l hr (by rw [Option.some.inj hl])
  | case4 c l hpair hbreak ih => exact inner c l (by simpa using hbreak) ih

/-- **The lines before a character of ink depend only on what stands before it**, those behind it only on what stands
behind it. -/
theorem lines_append_ink : ∀ (a : List Char), ∃ (ps : List (List Char)) (u : List Char), ∀ (c : Char) (b : List Char),
    isBlank c = false → lines (a ++ c :: b) = ps ++ prefixed u (consPart c (lines b)) := by
  intro a
  induction a using run_induction with
  | nil =>
    refine ⟨[], [], fun c b hc => ?_⟩
    rw [List.nil_append, lines_cons_of_not_isBreak (isBreak_of_ink hc), List.nil_append, prefixed_nil]
    cases lines b <;> simp [consPart]
  | pair a ih =>
    obtain ⟨ps, u, h⟩ := ih
    exact ⟨[] :: ps, u, fun c b hc => by
      rw [List.cons_append, List.cons_append, lines_return, h c b hc, List.cons_append]⟩
  | lineEnd d a hd hpair ih =>
    obtain ⟨ps, u, h⟩ := ih
    refine ⟨[] :: ps, u, fun c b hc => ?_⟩
    have hhead : d = '\r' → (a ++ c :: b).head? ≠ some '\n' := by
      intro hr
      cases a with
      | nil => exact fun hn => ne_of_ink hc (by decide) (Option.some.inj hn)
      | cons e a => exact hpair hr
    rw [List.cons_append, lines_cons_of_isBreak hd hhead, h c b hc, List.cons_append]
  | inner d a hd ih =>
    obtain ⟨ps, u, h⟩ := ih
    cases ps with
    | nil => exact ⟨[], d :: u, fun c b hc => by
        rw [List.cons_append, lines_cons_of_not_isBreak hd, h c b hc, List.nil_append, List.nil_append,
          consPart_prefixed]⟩
    | cons p ps => exact ⟨(d :: p) :: ps, u, fun c b hc => by
        rw [List.cons_append, lines_cons_of_not_isBreak hd, h c b hc]
        rfl⟩

/-! ## Laying out -/

def laid (l : List Char) : List Char := join ['\n'] ((lines l).map layLine)

theorem toList_lay (statement : String) : (lay statement).toList = laid (trim statement.toList) ++ [';'] :=
  String.toList_ofList

def expandTab : List Char → List Char
  | '\t' :: l => ' ' :: ' ' :: ' ' :: ' ' :: l
  | l => l

theorem layLine_eq (l : List Char) : layLine l = expandTab (trimRight l) := rfl

theorem expandTab_eq_self_iff (l : List Char) : expandTab l = l ↔ l.head? ≠ some '\t' := by
  unfold expandTab
  split
  · rename_i l
    simp
  · rename_i h
    simp only [true_iff]
    intro hhead
    cases l with
    | nil => cases hhead
    | cons c l => exact h l (by rw [Option.some.inj hhead])

theorem trimRight_append_ink (a b : List Char) {c : Char} (hc : isBlank c = false) :
    trimRight (a ++ c :: b) = a ++ c :: trimRight b := by
  have hstop : (c :: a.reverse).dropWhile isBlank = c :: a.reverse := by
    rw [List.dropWhile_cons, hc]
    rfl
  simp only [trimRight, List.reverse_append, List.reverse_cons, List.append_assoc, List.singleton_append]
  rw [List.dropWhile_append, hstop]
  split
  · rename_i hnil
    simp [List.isEmpty_iff.1 hnil]
  · simp

theorem trimRight_of_blank {l : List Char} (h : ∀ c ∈ l, isBlank c = true) : trimRight l = [] := by
  simpa [trimRight, List.dropWhile_eq_nil_iff] using h

theorem trim_enclosed {p q : List Char} (hp : ∀ d ∈ p, isBlank d = true) (hq : ∀ d ∈ q, isBlank d = true)
    (l : List Char) {c e : Char} (hc : isBlank c = false) (he : isBlank e = false) :
    trim (p ++ (c :: l ++ [e]) ++ q) = c :: l ++ [e] := by
  have hleft : trimLeft (p ++ (c :: l ++ [e]) ++ q) = (c :: l) ++ e :: q := by
    rw [trimLeft, List.append_assoc, List.dropWhile_append_of_pos hp, List.append_assoc, List.singleton_append,
      List.cons_append, List.dropWhile_cons, hc]
    rfl
  rw [trim, hleft, trimRight_append_ink _ _ he, trimRight_of_blank hq]

theorem layLine_append_ink (u v : List Char) {c : Char} (hc : isBlank c = false) :
    layLine (u ++ c :: v) = expandTab u ++ c :: trimRight v := by
  rw [layLine_eq, trimRight_append_ink u v hc]
  cases u with
  | nil => exact (expandTab_eq_self_iff _).2 (fun h => ne_of_ink hc (by decide) (Option.some.inj h))
  | cons d u =>
    by_cases hd : d = '\t'
    · subst hd
      rfl
    · have hself : ∀ l, expandTab (d :: l) = d :: l := fun l =>
        (expandTab_eq_self_iff _).2 (fun h => hd (Option.some.inj h))
      rw [List.cons_append, hself, hself, List.cons_append]

def laidAfter (b : List Char) : List Char := (laid ('\'' :: b)).tail

theorem laid_append_ink (a : List Char) : ∃ front, ∀ (c : Char) (b : List Char), isBlank c = false →
    laid (a ++ c :: b) = front ++ c :: laidAfter b := by
  -- the parts of the line behind the character depend on the character by nothing but its being there
  have hbehind : ∀ (u : List Char) (c : Char) (b : List Char), isBlank c = false → ∃ v ps,
      (prefixed u (consPart c (lines b))).map layLine = (expandTab u ++ c :: v) :: ps ∧
        (consPart '\'' (lines b)).map layLine = ('\'' :: v) :: ps := by
    intro u c b hc
    have hquote : isBlank '\'' = false := by decide
    cases lines b with
    | nil => exact ⟨[], [], by simp [consPart, prefixed, layLine_append_ink u [] hc, trimRight], rfl⟩
    | cons p ps =>
      refine ⟨trimRight p, ps.map layLine, ?_, ?_⟩
      · simp [consPart, prefixed, layLine_append_ink u p hc]
      · simpa [consPart, expandTab] using layLine_append_ink [] p hquote
  obtain ⟨ps, u, h⟩ := lines_append_ink a
  refine ⟨join ['\n'] (ps.map layLine ++ [expandTab u]), fun c b hc => ?_⟩
  obtain ⟨v, qs, hmap, hquoted⟩ := hbehind u c b hc
  have hafter : '\'' :: laidAfter b = join ['\n'] (('\'' :: v) :: qs) := by
    rw [laidAfter, laid, lines_cons_of_not_isBreak (by decide), hquoted]
    cases qs <;> simp [join]
  have hsplit := join_append_cons ['\n'] [] qs ['\''] v
  have hsplit' := join_append_cons ['\n'] [] qs [c] v
  simp only [List.nil_append, List.singleton_append, join] at hsplit hsplit'
  rw [laid, h c b hc, List.map_append, hmap, join_append_cons, hsplit',
    List.tail_eq_of_cons_eq (hafter.trans hsplit)]

/-- **What becomes of a text between two characters of ink.** -/
def relaid (l : List Char) : List Char := (laidAfter (l ++ ['\''])).dropLast

theorem laidAfter_nil : laidAfter [] = [] := by decide

theorem laid_ink {c : Char} (hc : isBlank c = false) (b : List Char) : laid (c :: b) = c :: laidAfter b := by
  obtain ⟨front, h⟩ := laid_append_ink []
  have hquote := h '\'' [] (by decide)
  rw [laidAfter_nil, List.nil_append] at hquote
  have hfront : front = [] := by
    have hlength := congrArg List.length hquote
    rw [show laid ['\''] = ['\''] by decide] at hlength
    simpa using hlength
  simpa [hfront] using h c b hc

theorem laidAfter_append_ink (l b : List Char) {c : Char} (hc : isBlank c = false) :
    laidAfter (l ++ c :: b) = relaid l ++ c :: laidAfter b := by
  obtain ⟨front, h⟩ := laid_append_ink ('\'' :: l)
  have htail : ∀ (d : Char) (r : List Char), isBlank d = false →
      '\'' :: laidAfter (l ++ d :: r) = front ++ d :: laidAfter r := fun d r hd => by
    rw [← h d r hd, List.cons_append, laid_ink (by decide)]
  have hquote := htail '\'' [] (by decide)
  rw [laidAfter_nil] at hquote
  have hrelaid : '\'' :: relaid l = front := by
    have hne : laidAfter (l ++ ['\'']) ≠ [] := by
      intro hnil
      rw [hnil] at hquote
      have hc' := htail 'x' [] (by decide)
      cases front with
      | nil =>
        cases (List.cons.inj hc').1
      | cons d front =>
        have := congrArg List.length hquote
        simp at this
    rw [relaid, ← List.dropLast_cons_of_ne_nil hne, hquote]
    simp
  have := htail c b hc
  rw [← hrelaid, List.cons_append] at this
  exact List.tail_eq_of_cons_eq this

@[simp] theorem relaid_nil : relaid [] = [] := by decide

theorem relaid_append_ink (a b : List Char) {c : Char} (hc : isBlank c = false) :
    relaid (a ++ c :: b) = relaid a ++ c :: relaid b := by
  have hquote : isBlank '\'' = false := by decide
  have hb := laidAfter_append_ink b [] hquote
  rw [relaid, List.append_assoc, List.cons_append, laidAfter_append_ink a _ hc, hb, laidAfter_nil,
    ← List.cons_append, ← List.append_assoc, List.dropLast_concat]

theorem laid_enclosed (l : List Char) {c d : Char} (hc : isBlank c = false) (hd : isBlank d = false) :
    laid (c :: l ++ [d]) = c :: relaid l ++ [d] := by
  rw [List.cons_append, laid_ink hc, laidAfter_append_ink l [] hd, laidAfter_nil, List.cons_append]

theorem relaid_enclosed (l : List Char) {c d : Char} (hc : isBlank c = false) (hd : isBlank d = false) :
    relaid (c :: l ++ [d]) = c :: relaid l ++ [d] := by
  have h := relaid_append_ink [] (l ++ [d]) hc
  rwa [List.nil_append, relaid_nil, List.nil_append, relaid_append_ink l [] hd, relaid_nil] at h

/-! ## Runs of white space -/

/-- A run of white space as it is laid out, from where a line has begun with the white space `q` or, in the middle of a
line, goes on with it. -/
def runFrom (begins : Bool) (q : List Char) : List Char → List Char
  | [] => if begins then expandTab q else q
  | '\r' :: '\n' :: l => '\n' :: runFrom true [] l
  | c :: l => if isBreak c then '\n' :: runFrom true [] l else runFrom begins (q ++ [c]) l

theorem runFrom_of_isBreak {c : Char} (h : isBreak c = true) (begins : Bool) (q : List Char) {l : List Char}
    (hl : c = '\r' → l.head? ≠ some '\n') : runFrom begins q (c :: l) = '\n' :: runFrom true [] l := by
  rw [runFrom.eq_def]
  split
  · rename_i heq
    cases heq
  · rename_i heq
    obtain ⟨rfl, rfl⟩ := List.cons.inj heq
    exact absurd rfl (hl rfl)
  · rename_i heq
    obtain ⟨rfl, rfl⟩ := List.cons.inj heq
    simp [h]

theorem runFrom_of_not_isBreak {c : Char} (h : isBreak c = false) (begins : Bool) (q l : List Char) :
    runFrom begins q (c :: l) = runFrom begins (q ++ [c]) l := by
  rw [runFrom.eq_def]
  split
  · rename_i heq
    cases heq
  · rename_i heq
    obtain ⟨rfl, -⟩ := List.cons.inj heq
    cases h
  · rename_i heq
    obtain ⟨rfl, rfl⟩ := List.cons.inj heq
    simp [h]

theorem lines_append_ne_nil (l : List Char) {c : Char} (hc : isBlank c = false) : lines (l ++ [c]) ≠ [] := by
  obtain ⟨ps, u, h⟩ := lines_append_ink l
  rw [h c [] hc]
  cases lines [] <;> simp [consPart, prefixed]

def runStart (begins : Bool) : List Char := if begins then [] else ['\'']

theorem layLine_runStart (begins : Bool) {q : List Char} (hq : ∀ c ∈ q, isBlank c = true) :
    layLine (runStart begins ++ q) = runStart begins := by
  cases begins with
  | true => rw [runStart, if_pos rfl, List.nil_append, layLine_eq, trimRight_of_blank hq]; rfl
  | false =>
    have h := layLine_append_ink [] q (c := '\'') (by decide)
    rwa [trimRight_of_blank hq] at h

theorem no_break_runStart (begins : Bool) {q : List Char} (hq : ∀ c ∈ q, isBreak c = false) :
    ∀ c ∈ runStart begins ++ q, isBreak c = false := by
  cases begins with
  | true => exact hq
  | false => exact List.forall_mem_cons.2 ⟨by decide, hq⟩

theorem laid_runStart (begins : Bool) {q e l : List Char} (hq : ∀ c ∈ q, isBlank c = true)
    (hbreak : ∀ c ∈ q, isBreak c = false) (he : lines e = [] :: lines l) (hl : lines l ≠ []) :
    laid (runStart begins ++ q ++ e) = runStart begins ++ '\n' :: laid l := by
  rw [laid, lines_prefixed (no_break_runStart begins hbreak) (by rw [he]; simp), he, prefixed, List.append_nil,
    List.map_cons, layLine_runStart begins hq, join_cons ['\n'] (by simpa using hl), List.append_assoc]
  rfl

theorem laid_run (l : List Char) : ∀ (begins : Bool) (q : List Char), (∀ c ∈ q ++ l, isBlank c = true) →
    (∀ c ∈ q, isBreak c = false) →
    laid (runStart begins ++ q ++ (l ++ ['\''])) = runStart begins ++ runFrom begins q l ++ ['\''] := by
  -- `q` is what of the run is on the line that is being read; a line end starts it anew
  have hquote : isBlank '\'' = false := by decide
  induction l using run_induction with
  | nil =>
    intro begins q _ hbreak
    have hlay : layLine (runStart begins ++ q ++ ['\'']) = runStart begins ++ runFrom begins q [] ++ ['\''] := by
      rw [layLine_append_ink _ [] hquote]
      cases begins <;> rfl
    rw [List.nil_append, laid, lines_prefixed (no_break_runStart begins hbreak) (by decide), ← hlay]
    rfl
  | pair l ih =>
    intro begins q hq hbreak
    have hlines : lines ('\r' :: '\n' :: l ++ ['\'']) = [] :: lines (l ++ ['\'']) := lines_return _
    rw [laid_runStart begins (fun c hc => hq c (List.mem_append_left _ hc)) hbreak hlines
      (lines_append_ne_nil l hquote), runFrom]
    simpa [runStart] using ih true [] (fun c hc => hq c (by simp_all)) (by simp)
  | lineEnd c l hc hl ih =>
    intro begins q hq hbreak
    have hlines : lines (c :: l ++ ['\'']) = [] :: lines (l ++ ['\'']) := lines_cons_of_isBreak hc (by
      intro hr
      cases l with
      | nil => decide
      | cons d l => exact hl hr)
    rw [laid_runStart begins (fun c hc => hq c (List.mem_append_left _ hc)) hbreak hlines
      (lines_append_ne_nil l hquote), runFrom_of_isBreak hc begins q hl]
    simpa [runStart] using ih true [] (fun c hc => hq c (by simp_all)) (by simp)
  | inner c l hc ih =>
    intro begins q hq hbreak
    rw [runFrom_of_not_isBreak hc, ← ih begins (q ++ [c]) (by simpa using hq)
      (fun d hd => (List.mem_append.1 hd).elim (hbreak d) (fun hd => by rwa [List.mem_singleton.1 hd]))]
    simp

theorem relaid_of_blank {l : List Char} (h : ∀ c ∈ l, isBlank c = true) : relaid l = runFrom false [] l := by
  have hquote : isBlank '\'' = false := by decide
  have hrun := laid_run l false [] (by simpa using h) (by simp)
  have henclosed : laid (runStart false ++ [] ++ (l ++ ['\''])) = '\'' :: relaid l ++ ['\''] :=
    laid_enclosed l hquote hquote
  rw [henclosed] at hrun
  simpa [runStart] using hrun

theorem mem_expandTab {c : Char} {l : List Char} (h : c ∈ expandTab l) : c = ' ' ∨ c ∈ l := by
  unfold expandTab at h
  split at h
  · simp only [List.mem_cons] at h ⊢
    tauto
  · exact .inr h

theorem blank_of_mem_runFrom (l : List Char) : ∀ (begins : Bool) (q : List Char), (∀ c ∈ q ++ l, isBlank c = true) →
    ∀ c ∈ runFrom begins q l, isBlank c = true := by
  induction l using run_induction with
  | nil =>
    intro begins q hq c hc
    cases begins with
    | false => exact hq c (by simpa [runFrom] using hc)
    | true =>
      rcases mem_expandTab (by simpa [runFrom] using hc) with rfl | hc
      · decide
      · exact hq c (by simpa using hc)
  | pair l ih =>
    intro begins q hq c hc
    rw [runFrom] at hc
    rcases List.mem_cons.1 hc with rfl | hc
    · decide
    · exact ih true [] (fun d hd => hq d (by simp_all)) c hc
  | lineEnd d l hd hl ih =>
    intro begins q hq c hc
    rw [runFrom_of_isBreak hd begins q hl] at hc
    rcases List.mem_cons.1 hc with rfl | hc
    · decide
    · exact ih true [] (fun d hd => hq d (by simp_all)) c hc
  | inner d l hd ih =>
    intro begins q hq c hc
    rw [runFrom_of_not_isBreak hd] at hc
    exact ih begins (q ++ [d]) (by simpa using hq) c hc

theorem blank_of_mem_relaid {l : List Char} (h : ∀ c ∈ l, isBlank c = true) : ∀ c ∈ relaid l, isBlank c = true := by
  rw [relaid_of_blank h]
  exact blank_of_mem_runFrom l false [] (by simpa using h)

theorem runFrom_ne_nil (l : List Char) : ∀ (begins : Bool) (q : List Char), q ++ l ≠ [] → runFrom begins q l ≠ [] := by
  induction l using run_induction with
  | nil =>
    intro begins q hq
    have hne : q ≠ [] := by simpa using hq
    cases begins with
    | false => simpa [runFrom] using hne
    | true =>
      simp only [runFrom, if_true]
      unfold expandTab
      split <;> simp_all
  | pair l ih => exact fun begins q _ => by simp [runFrom]
  | lineEnd c l hc hl ih => exact fun begins q _ => by simp [runFrom_of_isBreak hc begins q hl]
  | inner c l hc ih =>
    intro begins q _
    rw [runFrom_of_not_isBreak hc]
    exact ih begins (q ++ [c]) (by simp)

theorem relaid_ne_nil_of_blank {l : List Char} (h : ∀ c ∈ l, isBlank c = true) (hne : l ≠ []) : relaid l ≠ [] := by
  rw [relaid_of_blank h]
  exact runFrom_ne_nil l false [] (by simpa using hne)

/-! ## Texts that are left alone -/

/-- Two neighbours that laying out leaves alone: no white space but a line feed before a line feed, no tab behind
one. -/
def Beside (a b : Char) : Prop := (b = '\n' → isBlank a = true → a = '\n') ∧ (a = '\n' → b ≠ '\t')

/-- **A text that laying out leaves alone** where it stands between two characters of ink: its line ends are line feeds,
and its neighbours may stand beside each other. -/
structure Kept (l : List Char) : Prop where
  lineEnds : ∀ c ∈ l, isBreak c = true → c = '\n'
  neighbours : l.IsChain Beside

theorem kept_of_no_break {l : List Char} (h : ∀ c ∈ l, isBreak c = false) : Kept l := by
  refine ⟨fun c hc hbreak => absurd hbreak (by simp [h c hc]), ?_⟩
  have hne : ∀ c ∈ l, c ≠ '\n' := by
    rintro c hc rfl
    cases h _ hc
  exact (List.pairwise_of_forall_mem_list (r := Beside) (fun a ha b hb =>
    ⟨fun hn => absurd hn (hne b hb), fun hn => absurd hn (hne a ha)⟩)).isChain

theorem kept_newline_cons_iff (l : List Char) : Kept ('\n' :: l) ↔ l.head? ≠ some '\t' ∧ Kept l := by
  constructor
  · intro h
    obtain ⟨hhead, hchain⟩ := List.isChain_cons.1 h.neighbours
    exact ⟨fun ht => (hhead '\t' ht).2 rfl rfl, fun c hc => h.lineEnds c (List.mem_cons_of_mem _ hc), hchain⟩
  · rintro ⟨hhead, h⟩
    refine ⟨List.forall_mem_cons.2 ⟨fun _ => rfl, h.lineEnds⟩, List.isChain_cons.2 ⟨fun b hb => ?_, h.neighbours⟩⟩
    exact ⟨fun _ _ => rfl, fun _ ht => hhead (ht ▸ hb)⟩

theorem not_kept_of_ended {q l : List Char} {c : Char} (hq : ∀ d ∈ q, isBlank d = true)
    (hbreak : ∀ d ∈ q, isBreak d = false) (hne : q ≠ []) (hc : isBreak c = true) : ¬ Kept (q ++ c :: l) := by
  intro h
  obtain rfl := h.lineEnds c (by simp) hc
  obtain ⟨-, -, hbeside⟩ := List.isChain_append.1 h.neighbours
  have hlast : q.getLast hne ∈ q := List.getLast_mem hne
  have heq := (hbeside _ (List.getLast?_eq_some_getLast hne) _ rfl).1 rfl (hq _ hlast)
  rw [heq] at hlast
  cases hbreak _ hlast

theorem expandTab_eq_self_iff_kept {q : List Char} (hbreak : ∀ c ∈ q, isBreak c = false) :
    expandTab q = q ↔ Kept ('\n' :: q) := by
  rw [expandTab_eq_self_iff, kept_newline_cons_iff]
  exact ⟨fun h => ⟨h, kept_of_no_break hbreak⟩, fun h => h.1⟩

theorem newline_cons_eq_append_iff {q r l : List Char} {c : Char} (hbreak : ∀ d ∈ q, isBreak d = false) :
    '\n' :: r = q ++ c :: l ↔ q = [] ∧ c = '\n' ∧ r = l := by
  cases q with
  | nil => simp [eq_comm]
  | cons d q =>
    refine iff_of_false (fun h => ?_) (fun h => List.cons_ne_nil _ _ h.1)
    obtain ⟨rfl, -⟩ := List.cons.inj h
    cases hbreak _ List.mem_cons_self

theorem kept_break_cons_iff (begins : Bool) {c : Char} {l : List Char} (hc : isBreak c = true) :
    Kept ((if begins then ['\n'] else []) ++ c :: l) ↔ c = '\n' ∧ Kept ('\n' :: l) := by
  have hone : Kept (c :: l) ↔ c = '\n' ∧ Kept ('\n' :: l) := by
    constructor
    · intro h
      obtain rfl := h.lineEnds c (by simp) hc
      exact ⟨rfl, h⟩
    · rintro ⟨rfl, h⟩
      exact h
  cases begins with
  | false => exact hone
  | true =>
    refine (kept_newline_cons_iff (c :: l)).trans ((and_iff_right ?_).trans hone)
    intro ht
    rw [Option.some.inj ht] at hc
    cases hc

/-- A line end behind white space is taken for a line feed in its place. -/
theorem ended_eq_self_iff (begins : Bool) {q r l : List Char} {c : Char} (hq : ∀ d ∈ q, isBlank d = true)
    (hbreak : ∀ d ∈ q, isBreak d = false) (hc : isBreak c = true) (hr : r = l ↔ Kept ('\n' :: l)) :
    '\n' :: r = q ++ c :: l ↔ Kept ((if begins then ['\n'] else []) ++ (q ++ c :: l)) := by
  rw [newline_cons_eq_append_iff hbreak]
  by_cases hne : q = []
  · subst hne
    rw [List.nil_append, kept_break_cons_iff begins hc, hr]
    exact and_iff_right rfl
  · refine iff_of_false (fun h => hne h.1) (fun h => not_kept_of_ended hq hbreak hne hc (l := l) ?_)
    cases begins with
    | false => exact h
    | true => exact ((kept_newline_cons_iff _).1 h).2

/-- **A run of white space stays exactly if it is to be left alone**, from the line feed on where it begins a line. -/
theorem runFrom_eq_self_iff (l : List Char) : ∀ (begins : Bool) (q : List Char), (∀ c ∈ q ++ l, isBlank c = true) →
    (∀ c ∈ q, isBreak c = false) →
    (runFrom begins q l = q ++ l ↔ Kept ((if begins then ['\n'] else []) ++ (q ++ l))) := by
  induction l using run_induction with
  | nil =>
    intro begins q _ hbreak
    cases begins with
    | false => simp [runFrom, kept_of_no_break hbreak]
    | true => simpa [runFrom] using expandTab_eq_self_iff_kept hbreak
  | pair l ih =>
    intro begins q hq hbreak
    -- the return goes, which is a change, and is no line feed
    rw [runFrom, newline_cons_eq_append_iff hbreak]
    refine iff_of_false (fun h => ?_) (fun h => ?_)
    · cases h.2.1
    · cases h.lineEnds '\r' (by simp) (by decide)
  | lineEnd c l hc hl ih =>
    intro begins q hq hbreak
    rw [runFrom_of_isBreak hc begins q hl]
    exact ended_eq_self_iff begins (fun d hd => hq d (List.mem_append_left _ hd)) hbreak hc
      (by simpa using ih true [] (fun d hd => hq d (by simp_all)) (by simp))
  | inner c l hc ih =>
    intro begins q hq hbreak
    rw [runFrom_of_not_isBreak hc]
    have h := ih begins (q ++ [c]) (by simpa using hq)
      (fun d hd => (List.mem_append.1 hd).elim (hbreak d) (fun hd => by rwa [List.mem_singleton.1 hd]))
    simpa using h

theorem relaid_eq_self_iff_of_blank {l : List Char} (h : ∀ c ∈ l, isBlank c = true) : relaid l = l ↔ Kept l := by
  rw [relaid_of_blank h]
  simpa using runFrom_eq_self_iff l false [] (by simpa using h) (by simp)

theorem ink_induction {P : List Char → Prop} (blank : ∀ p, (∀ c ∈ p, isBlank c = true) → P p)
    (ink : ∀ p c l, (∀ d ∈ p, isBlank d = true) → isBlank c = false → P l → P (p ++ c :: l)) (l : List Char) : P l := by
  -- the run in front is put off until the character behind it is reached
  suffices h : ∀ (l p : List Char), (∀ d ∈ p, isBlank d = true) → P (p ++ l) from h l [] (by simp)
  intro l
  induction l with
  | nil => exact fun p hp => by simpa using blank p hp
  | cons c l ih =>
    intro p hp
    cases hc : isBlank c with
    | false => exact ink p c l hp hc (ih [] (by simp))
    | true =>
      have h := ih (p ++ [c]) (fun d hd =>
        (List.mem_append.1 hd).elim (hp d) (fun hd => by rwa [List.mem_singleton.1 hd]))
      simpa using h

theorem append_ink_inj {p q l r : List Char} {c : Char} (hp : ∀ d ∈ p, isBlank d = true)
    (hq : ∀ d ∈ q, isBlank d = true) (hc : isBlank c = false) : p ++ c :: l = q ++ c :: r ↔ p = q ∧ l = r := by
  constructor
  · intro h
    have htake : ∀ {s t : List Char}, (∀ d ∈ s, isBlank d = true) → (s ++ c :: t).takeWhile isBlank = s := by
      intro s t hs
      rw [List.takeWhile_append_of_pos hs, List.takeWhile_cons, hc]
      simp
    have heq : p = q := by rw [← htake hp (t := l), h, htake hq]
    subst heq
    exact ⟨rfl, (List.cons.inj (List.append_cancel_left h)).2⟩
  · rintro ⟨rfl, rfl⟩
    rfl

theorem kept_append_ink_iff (a b : List Char) {c : Char} (hc : isBlank c = false) :
    Kept (a ++ c :: b) ↔ Kept a ∧ Kept b := by
  have hl : ∀ x, Beside x c := fun x =>
    ⟨fun hn => absurd hn (ne_of_ink hc (by decide)), fun _ => ne_of_ink hc (by decide)⟩
  have hr : ∀ x, Beside c x := fun x =>
    ⟨fun _ hblank => absurd hblank (by simp [hc]), fun hn => absurd hn (ne_of_ink hc (by decide))⟩
  constructor
  · intro h
    obtain ⟨ha, hb, -⟩ := List.isChain_append.1 h.neighbours
    exact ⟨⟨fun d hd => h.lineEnds d (by simp [hd]), ha⟩,
      ⟨fun d hd => h.lineEnds d (by simp [hd]), (List.isChain_cons.1 hb).2⟩⟩
  · rintro ⟨ha, hb⟩
    refine ⟨fun d hd hbreak => ?_, List.isChain_append.2 ⟨ha.neighbours, List.isChain_cons.2 ⟨fun y _ => hr y,
      hb.neighbours⟩, fun x _ y hy => ?_⟩⟩
    · rcases List.mem_append.1 hd with hd | hd
      · exact ha.lineEnds d hd hbreak
      · rcases List.mem_cons.1 hd with rfl | hd
        · exact absurd (isBlank_of_isBreak hbreak) (by simp [hc])
        · exact hb.lineEnds d hd hbreak
    · rw [← Option.some.inj hy]
      exact hl x

/-- **Which texts laying out leaves alone.** -/
theorem relaid_eq_self_iff (l : List Char) : relaid l = l ↔ Kept l := by
  induction l using ink_induction with
  | blank p hp => exact relaid_eq_self_iff_of_blank hp
  | ink p c l hp hc ih =>
    rw [relaid_append_ink p l hc, append_ink_inj (blank_of_mem_relaid hp) hp hc, relaid_eq_self_iff_of_blank hp, ih,
      kept_append_ink_iff p l hc]

theorem kept_of_ink {l : List Char} (h : ∀ c ∈ l, isBlank c = false) : Kept l :=
  kept_of_no_break (fun c hc => isBreak_of_ink (h c hc))

theorem kept_concat_of_ink {l : List Char} (h : ∀ c ∈ l, isBlank c = false) : Kept (l ++ ['\n']) := by
  refine ⟨fun c hc hbreak => ?_, List.isChain_append.2 ⟨(kept_of_ink h).neighbours, List.isChain_singleton _, ?_⟩⟩
  · rcases List.mem_append.1 hc with hc | hc
    · exact absurd hbreak (by simp [isBreak_of_ink (h c hc)])
    · exact List.mem_singleton.1 hc
  · intro x hx y hy
    have hink := h x (List.mem_of_getLast? hx)
    exact ⟨fun _ hblank => absurd hblank (by simp [hink]), fun hn => absurd hn (ne_of_ink hink (by decide))⟩

end Script
end Scaffold
