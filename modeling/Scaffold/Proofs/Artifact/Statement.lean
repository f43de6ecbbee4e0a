import Scaffold.Proofs.Artifact.Layout
import Scaffold.Proofs.Source.Token
/-!
# Proofs.Artifact.Statement — the tokens of a statement that is laid out

Laying out a statement does not change which tokens it has: only the texts between quotes change, each as if it stood by
itself (`Closes.relaid`).  Reading goes from one character of ink to the next, over a run of white space each time, and
what is pending there is the same as in the statement as it was.
-/
namespace Scaffold
namespace Source

open Text Script

def Token.relaid : Token → Token
  | .quoted q l => .quoted q (Script.relaid l)
  | t => t

@[simp] theorem Token.relaid_word (l : List Char) : (Token.word l).relaid = .word l := rfl

@[simp] theorem Token.relaid_mark (c : Char) : (Token.mark c).relaid = .mark c := rfl

theorem relaid_eq_word_iff (t : Token) (l : List Char) : t.relaid = .word l ↔ t = .word l := by
  cases t <;> simp [Token.relaid]

theorem relaid_eq_mark_iff (t : Token) (c : Char) : t.relaid = .mark c ↔ t = .mark c := by
  cases t <;> simp [Token.relaid]

theorem depth?_relaid : ∀ (ts : List Token) (depth : Nat), depth? depth (ts.map Token.relaid) = depth? depth ts
  | [], _ => rfl
  | t :: ts, depth => by
    have hafter : t.relaid.depthAfter depth = t.depthAfter depth := by
      simp only [Token.depthAfter, relaid_eq_mark_iff]
    rw [List.map_cons, depth?, depth?, depth?_relaid ts, hafter]
    simp only [relaid_eq_mark_iff]

theorem Level.relaid {ts : List Token} (h : Level ts) : Level (ts.map Token.relaid) := by
  rwa [Level, depth?_relaid]

namespace Pending

def relaid : Pending → Pending
  | .quoted q l => .quoted q (Script.relaid l)
  | .escape q l => .escape q (Script.relaid l)
  | .closed q l => .closed q (Script.relaid l)
  | p => p

def IsDoubled : Pending → Prop
  | .quoted q _ => isBlank q = false
  | .closed q _ => isBlank q = false
  | .escape _ _ => False
  | _ => True

/-- What is pending behind a character of ink: the text between the quotes is empty or ends in ink. -/
structure Inked (p : Pending) : Prop where
  isDoubled : p.IsDoubled
  ends : ∀ q l, p = .quoted q l → l = [] ∨ ∃ a c, l = a ++ [c] ∧ isBlank c = false

/-- White space read: between quotes it belongs to the text, elsewhere it ends what is pending. -/
def pause : Pending → List Char → List Token × Pending
  | .quoted q l, w => ([], .quoted q (l ++ w))
  | p, _ => (p.finish, .none)

theorem inked_none : Pending.none.Inked := ⟨trivial, by simp⟩

theorem next_of_blank {p : Pending} (hp : p.IsDoubled) {c : Char} (hc : isBlank c = true) :
    p.next .doubled c = p.pause [c] := by
  have hword : isWordChar c = false := by simp [isWordChar, hc]
  cases p with
  | none => simp [next, begin, pause, finish, hc]
  | word l => simp [next, begin, pause, finish, hc, hword]
  | quoted q l => simp [next, pause, (ne_of_ink hp hc).symm]
  | escape q l => exact hp.elim
  | closed q l => simp [next, begin, pause, finish, hc, (ne_of_ink hp hc).symm]

theorem pause_pause (p : Pending) (v w : List Char) :
    ((p.pause v).1 ++ ((p.pause v).2.pause w).1, ((p.pause v).2.pause w).2) = p.pause (v ++ w) := by
  cases p <;> simp [pause, finish]

theorem isDoubled_pause {p : Pending} (hp : p.IsDoubled) (w : List Char) : (p.pause w).2.IsDoubled := by
  cases p with
  | quoted q l => exact hp
  | _ => exact trivial

theorem run_of_blank {w : List Char} (hw : ∀ c ∈ w, isBlank c = true) (hne : w ≠ []) :
    ∀ {p : Pending}, p.IsDoubled → run .doubled p w = p.pause w := by
  induction w with
  | nil => exact absurd rfl hne
  | cons c w ih =>
    intro p hp
    have hc := next_of_blank hp (hw c List.mem_cons_self)
    rw [run, hc]
    by_cases hnil : w = []
    · simp [hnil, run]
    · rw [ih (fun d hd => hw d (List.mem_cons_of_mem c hd)) hnil (isDoubled_pause hp [c]), pause_pause,
        List.singleton_append]

theorem isDoubled_run_of_blank {p : Pending} (hp : p.IsDoubled) {w : List Char} (hw : ∀ c ∈ w, isBlank c = true) :
    (run .doubled p w).2.IsDoubled := by
  by_cases hne : w = []
  · rwa [hne]
  · rw [run_of_blank hw hne hp]
    exact isDoubled_pause hp w

theorem isDoubled_relaid {p : Pending} (hp : p.IsDoubled) : p.relaid.IsDoubled := by cases p <;> exact hp

theorem relaid_append_blank {l : List Char} (hl : l = [] ∨ ∃ a c, l = a ++ [c] ∧ isBlank c = false) (w : List Char) :
    Script.relaid (l ++ w) = Script.relaid l ++ Script.relaid w := by
  rcases hl with rfl | ⟨a, c, rfl, hc⟩
  · simp
  · rw [List.append_assoc, List.singleton_append, relaid_append_ink a w hc, relaid_append_ink a [] hc]
    simp

theorem run_relaid_of_blank {p : Pending} (hp : p.Inked) {w : List Char} (hw : ∀ c ∈ w, isBlank c = true) :
    run .doubled p.relaid (Script.relaid w) =
      ((run .doubled p w).1.map Token.relaid, (run .doubled p w).2.relaid) := by
  by_cases hne : w = []
  · simp [hne, run]
  · rw [run_of_blank hw hne hp.isDoubled, run_of_blank (blank_of_mem_relaid hw) (relaid_ne_nil_of_blank hw hne)
      (isDoubled_relaid hp.isDoubled)]
    cases p with
    | quoted q l => simp [pause, relaid, relaid_append_blank (hp.ends q l rfl) w]
    | _ => simp [pause, relaid, finish, Token.relaid]

theorem next_relaid {p : Pending} (hp : p.IsDoubled) {c : Char} (hc : isBlank c = false) :
    p.relaid.next .doubled c = ((p.next .doubled c).1.map Token.relaid, (p.next .doubled c).2.relaid) := by
  have hbegin : (begin c).1.map Token.relaid = (begin c).1 ∧ (begin c).2.relaid = (begin c).2 := by
    unfold begin
    split
    · exact ⟨rfl, rfl⟩
    · split
      · simp [relaid]
      · split <;> exact ⟨rfl, rfl⟩
  have happend : ∀ l, Script.relaid (l ++ [c]) = Script.relaid l ++ [c] := fun l => by simp [relaid_append_ink l [] hc]
  cases p with
  | none => exact Prod.ext hbegin.1.symm hbegin.2.symm
  | word l =>
    simp only [relaid, next]
    split
    · rfl
    · exact Prod.ext (congrArg (_ :: ·) hbegin.1.symm) hbegin.2.symm
  | quoted q l =>
    simp only [relaid, next, reduceCtorEq, false_and, if_false]
    split <;> simp [happend]
  | escape q l => exact hp.elim
  | closed q l =>
    simp only [relaid, next]
    split
    · simp [happend]
    · exact Prod.ext (congrArg (_ :: ·) hbegin.1.symm) hbegin.2.symm

theorem inked_begin {c : Char} (hc : isBlank c = false) : (begin c).2.Inked := by
  unfold begin
  split
  · exact inked_none
  · split
    · exact ⟨hc, by simp⟩
    · split
      · exact ⟨trivial, by simp⟩
      · exact inked_none

theorem inked_next {p : Pending} (hp : p.IsDoubled) {c : Char} (hc : isBlank c = false) :
    (p.next .doubled c).2.Inked := by
  cases p with
  | none => exact inked_begin hc
  | word l =>
    simp only [next]
    split
    · exact ⟨trivial, by simp⟩
    · exact inked_begin hc
  | quoted q l =>
    simp only [next, reduceCtorEq, false_and, if_false]
    split
    · exact ⟨hp, by simp⟩
    · exact ⟨hp, fun _ _ h => by cases h; exact .inr ⟨l, c, rfl, hc⟩⟩
  | escape q l => exact hp.elim
  | closed q l =>
    simp only [next]
    split
    · exact ⟨hp, fun _ _ h => by cases h; exact .inr ⟨l, c, rfl, hc⟩⟩
    · exact inked_begin hc

theorem run_relaid_block {p : Pending} (hp : p.Inked) {w : List Char} (hw : ∀ d ∈ w, isBlank d = true) {c : Char}
    (hc : isBlank c = false) : run .doubled p.relaid (Script.relaid w ++ [c]) =
      ((run .doubled p (w ++ [c])).1.map Token.relaid, (run .doubled p (w ++ [c])).2.relaid) := by
  have hdoubled := isDoubled_run_of_blank hp.isDoubled hw
  rw [run_append, run_append, run_relaid_of_blank hp hw]
  simp only [run, next_relaid hdoubled hc, List.append_nil, List.map_append]

theorem inked_run_block {p : Pending} (hp : p.Inked) {w : List Char} (hw : ∀ d ∈ w, isBlank d = true) {c : Char}
    (hc : isBlank c = false) : (run .doubled p (w ++ [c])).2.Inked := by
  rw [run_append]
  exact inked_next (isDoubled_run_of_blank hp.isDoubled hw) hc

/-- **A text up to a character of ink, read as it is laid out.** -/
theorem run_relaid (l : List Char) {c : Char} (hc : isBlank c = false) : ∀ {p : Pending}, p.Inked →
    run .doubled p.relaid (Script.relaid (l ++ [c])) =
      ((run .doubled p (l ++ [c])).1.map Token.relaid, (run .doubled p (l ++ [c])).2.relaid) := by
  induction l using ink_induction with
  | blank w hw =>
    intro p hp
    rw [relaid_append_ink w [] hc, relaid_nil]
    exact run_relaid_block hp hw hc
  | ink w d l hw hd ih =>
    intro p hp
    have hsplit : ∀ v r : List Char, v ++ d :: r = (v ++ [d]) ++ r := fun v r => by simp
    rw [List.append_assoc, List.cons_append, relaid_append_ink w (l ++ [c]) hd, hsplit w,
      hsplit (Script.relaid w), run_append, run_append _ (w ++ [d]), run_relaid_block hp hw hd]
    simp only [ih (inked_run_block hp hw hd), List.map_append]

end Pending

/-- **A text that ends in ink has the same tokens when it is laid out**, but for what stands between quotes. -/
theorem Closes.relaid {l : List Char} {ts : List Token} {c : Char} (h : Closes .doubled (l ++ [c]) ts)
    (hc : isBlank c = false) : Closes .doubled (Script.relaid (l ++ [c])) (ts.map Token.relaid) := by
  have hrun := closes_iff_run.1 h
  refine closes_iff_run.2 ?_
  have := Pending.run_relaid l hc Pending.inked_none
  rwa [hrun] at this

end Source
end Scaffold
