import Scaffold.Proofs.Source.Weave
/-!
# Proofs.Source.Outline — what stands behind certain tokens

The outline of a line says for each of some cues what stands behind it, if its tokens occur in the line.  A cue has no
texts between quotes, so in a woven line it occurs only where it occurs in one of the pieces (`Woven.after?_eq_none`).
-/
namespace Scaffold
namespace Source

open Text

/-- **What stands behind the first place where the tokens go on like the pattern.** -/
def after? (pattern : List Token) : List Token → Option (List Token)
  | [] => none
  | t :: ts => if pattern.isPrefixOf (t :: ts) then some ((t :: ts).drop pattern.length) else after? pattern ts

def tokensOf (text : String) : List Token := tokens .escaped text.toList

section Outline

variable {κ : Type}

/-- **The outline of a line**: the cues that occur in it, each with what stands behind it. -/
def outline (cues : List κ) (text : κ → String) (l : List Char) : List (κ × List Token) :=
  (cues.map (fun cue => (cue, tokensOf (text cue)))).filterMap (fun c =>
    (after? c.2 (tokens .escaped l)).map (fun ts => (c.1, ts)))

theorem outline_eq_nil {cues : List κ} {text : κ → String} {l : List Char}
    (h : ∀ cue ∈ cues, after? (tokensOf (text cue)) (tokens .escaped l) = none) : outline cues text l = [] :=
  List.filterMap_eq_nil_iff.2 (List.forall_mem_map.2 (fun cue hcue => by rw [h cue hcue]; rfl))

end Outline

/-! ## Patterns -/

theorem after?_cons_of_mismatch {pattern : List Token} {t : Token} {ts : List Token} (h : ¬ pattern <+: t :: ts) :
    after? pattern (t :: ts) = after? pattern ts := by
  rw [after?, if_neg (by simpa using h)]

theorem after?_eq_none_of_not_mem {pattern : List Token} {t : Token} (ht : t ∈ pattern) :
    ∀ {ts : List Token}, t ∉ ts → after? pattern ts = none
  | [], _ => rfl
  | u :: ts, h => by
    rw [after?_cons_of_mismatch (fun hmatch => h (hmatch.subset ht))]
    exact after?_eq_none_of_not_mem ht (fun hmem => h (List.mem_cons_of_mem u hmem))

/-- **A pattern is found where it is written**, if it does not begin before. -/
theorem after?_append {t : Token} {pattern : List Token} (rest : List Token) : ∀ {pre : List Token}, t ∉ pre →
    after? (t :: pattern) (pre ++ (t :: pattern ++ rest)) = some rest
  | [], _ => by
    rw [List.nil_append, List.cons_append, after?, if_pos (by simp)]
    simp
  | u :: pre, h => by
    obtain ⟨hu, hpre⟩ := not_or.1 (fun hor => h (List.mem_cons.2 hor))
    rw [List.cons_append, after?_cons_of_mismatch (fun hmatch => hu (List.cons_prefix_cons.1 hmatch).1),
      after?_append rest hpre]

theorem after?_append_cons {pattern : List Token} {t : Token} (ht : t ∉ pattern) (hne : pattern ≠ []) {us : List Token}
    (hus : after? pattern us = none) :
    ∀ {ts : List Token}, after? pattern ts = none → after? pattern (ts ++ t :: us) = none
  | [], _ => by
    rw [List.nil_append, after?_cons_of_mismatch (fun hmatch => ?_), hus]
    obtain ⟨p, ps, rfl⟩ := List.exists_cons_of_ne_nil hne
    exact ht (by rw [(List.cons_prefix_cons.1 hmatch).1]; exact List.mem_cons_self)
  | u :: ts, hts => by
    rw [after?] at hts
    split at hts
    · cases hts
    · rename_i hnot
      rw [List.cons_append, after?_cons_of_mismatch (fun hmatch => ?_), after?_append_cons ht hne hus hts]
      -- a longer pattern would have the token
      rcases List.prefix_or_prefix_of_prefix hmatch (List.prefix_append (u :: ts) (t :: us)) with hshort | ⟨r, hr⟩
      · exact hnot (by simpa using hshort)
      · rw [← hr, ← List.cons_append, List.prefix_append_right_inj] at hmatch
        cases r with
        | nil => exact hnot (by simp [← hr])
        | cons v r =>
          refine ht (hr ▸ List.mem_append_right _ ?_)
          rw [(List.cons_prefix_cons.1 hmatch).1]
          exact List.mem_cons_self

/-! ## Outlines of woven lines -/

section Woven

variable {cues : List String}

def Token.isQuoted : Token → Bool
  | .quoted _ _ => true
  | _ => false

def IsCue (cue : String) : Prop := tokensOf cue ≠ [] ∧ ∀ t ∈ tokensOf cue, t.isQuoted = false

instance (cue : String) : Decidable (IsCue cue) := inferInstanceAs (Decidable (_ ∧ _))

/-- **The piece is read to its end, and no cue occurs in it.** -/
def Silent (cues : List String) (p : List Char) : Prop :=
  (run .escaped .none p).2 = .none ∧ ∀ cue ∈ cues, after? (tokensOf cue) (run .escaped .none p).1 = none

instance (cues : List String) (p : List Char) : Decidable (Silent cues p) := inferInstanceAs (Decidable (_ ∧ _))

theorem Silent.closes {p : List Char} (h : Silent cues p) : Closes .escaped p (run .escaped .none p).1 :=
  Closes.of_run (Prod.ext rfl h.1)

theorem closes_weave : ∀ {rest : List (List Sign × List Char)} {p : List Char}, Silent cues p →
    (∀ r ∈ rest, Silent cues r.2) → Closes .escaped (weave p rest) ((run .escaped .none p).1 ++
      rest.flatMap (fun r => .quoted '"' (r.1.flatMap literalSign) :: (run .escaped .none r.2).1))
  | [], p, hp, _ => by simpa [weave] using hp.closes
  | (l, q) :: rest, p, hp, h => by
    obtain ⟨hq, hrest⟩ := List.forall_mem_cons.1 h
    have ih := (hp.closes.append (closes_literal l)).append (closes_weave hq hrest)
    simpa [weave_cons] using ih

theorem Woven.after?_eq_none (hcues : ∀ cue ∈ cues, IsCue cue) {pieces : List (List Char)}
    (h : ∀ p ∈ pieces, Silent cues p) {l : List Char} (hl : Woven pieces l) :
    ∀ cue ∈ cues, after? (tokensOf cue) (tokens .escaped l) = none := by
  obtain ⟨p, rest, rfl, hp, hrest⟩ := hl
  intro cue hcue
  rw [(closes_weave (h p hp) (fun r hr => h r.2 (hrest r hr))).reads.tokens_eq]
  have hall : ∀ (rest : List (List Sign × List Char)) {ts : List Token}, (∀ r ∈ rest, Silent cues r.2) →
      after? (tokensOf cue) ts = none → after? (tokensOf cue) (ts ++
        rest.flatMap (fun r => .quoted '"' (r.1.flatMap literalSign) :: (run .escaped .none r.2).1)) = none := by
    intro rest
    induction rest with
    | nil => exact fun _ hts => by simpa using hts
    | cons r rest ih =>
      intro ts hsilent hts
      obtain ⟨hr, hrest⟩ := List.forall_mem_cons.1 hsilent
      obtain ⟨hne, hquoted⟩ := hcues cue hcue
      rw [List.flatMap_cons, List.cons_append]
      exact after?_append_cons (fun hmem => by cases hquoted _ hmem) hne (ih hrest (hr.2 cue hcue)) hts
  exact hall rest (fun r hr => h r.2 (hrest r hr)) ((h p hp).2 cue hcue)

end Woven

end Source
end Scaffold
