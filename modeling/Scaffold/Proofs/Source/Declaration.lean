import Scaffold.Proofs.Sequence
import Scaffold.Proofs.Source.Literal
/-!
# Proofs.Source.Declaration — reading calls and declarations

A call is read as its arguments, the parts between the commas of its brackets, and one of them is found by its keyword.
A declaration is a name with an annotation and a value behind it.  What is written as an argument (`IsArgument`) is
found again among the arguments of the call (`callArguments_call`).
-/
namespace Scaffold
namespace Source

open Text

/-- **A declaration**, `name: annotation = value`, of which the value may be missing. -/
structure Declaration where
  name : List Char
  annotation : List Token
  value : List Token
deriving DecidableEq, Repr

def sides (ts : List Token) : List Token × List Token :=
  (ts.takeWhile (fun t => decide (t ≠ .mark '=')), (ts.dropWhile (fun t => decide (t ≠ .mark '='))).drop 1)

def declaration? : List Token → Option Declaration
  | .word name :: .mark ':' :: ts => some ⟨name, (sides ts).1, (sides ts).2⟩
  | _ => none

/-- **The arguments of a call**: the parts behind its first bracket. -/
def callArguments (call : List Token) : List (List Token) :=
  parts 0 ((call.dropWhile (fun t => decide (t ≠ .mark '('))).drop 1)

def valueFor? (k : String) : List Token → Option (List Token)
  | .word w :: .mark '=' :: value => if w = k.toList then some value else none
  | _ => none

def keyword? (k : String) (args : List (List Token)) : Option (List Token) := args.findSome? (valueFor? k)

def firstText? : List (List Token) → Option (List Char)
  | [.quoted '"' l] :: _ => some l
  | _ => none

/-! ## Reading them -/

theorem sides_append {ts : List Token} (h : ∀ t ∈ ts, t ≠ .mark '=') (value : List Token) :
    sides (ts ++ .mark '=' :: value) = (ts, value) := by
  have hpos : ∀ t ∈ ts, decide (t ≠ .mark '=') = true := by simpa using h
  rw [sides, List.takeWhile_append_of_pos hpos, List.dropWhile_append_of_pos hpos]
  simp

theorem sides_of_not_mem {ts : List Token} (h : ∀ t ∈ ts, t ≠ .mark '=') : sides ts = (ts, []) := by
  have hpos : ∀ t ∈ ts, decide (t ≠ .mark '=') = true := by simpa using h
  rw [sides, List.takeWhile_eq_self_iff.2 hpos, List.dropWhile_eq_nil_iff.2 hpos]
  rfl

theorem keyword?_append (k : String) (args more : List (List Token)) :
    keyword? k (args ++ more) = (keyword? k args).or (keyword? k more) := List.findSome?_append

theorem keyword?_singleton (k : String) (ts : List Token) : keyword? k [ts] = valueFor? k ts := by
  rw [keyword?, List.findSome?_cons]
  cases valueFor? k ts <;> rfl

/-- **The text is written as an argument with these tokens.** -/
structure IsArgument (l : List Char) (ts : List Token) : Prop where
  reads : Reads .escaped l ts
  level : Level ts

theorem isArgument_literal (l : List Sign) : IsArgument (literal l) [.quoted '"' (l.flatMap literalSign)] :=
  ⟨(closes_literal l).reads, level_of_isFlat (by simp [Token.IsFlat])⟩

theorem IsArgument.of_whole {l : List Char} {ts : List Token} (h : whole? .escaped l = some ts)
    (hlevel : depth? 0 ts = some 0) : IsArgument l ts := ⟨Reads.of_whole h, hlevel⟩

theorem IsArgument.keyword {k w l : List Char} {ts : List Token}
    (hk : run .escaped .none k = ([.word w, .mark '='], .none))
    (h : IsArgument l ts) : IsArgument (k ++ l) (.word w :: .mark '=' :: ts) := by
  have hword : Level [.word w, .mark '='] := level_of_isFlat (by simp [Token.IsFlat])
  exact ⟨(Closes.of_run hk).append_reads h.reads, hword.append h.level⟩

theorem IsArgument.call {f w l : List Char} {ts : List Token}
    (hf : run .escaped .none f = ([.word w, .mark '('], .none))
    (h : Reads .escaped l ts) (hts : ∀ t ∈ ts, t ≠ .mark '(' ∧ t ≠ .mark ')') :
    IsArgument (f ++ l ++ [')']) (.word w :: .mark '(' :: ts ++ [.mark ')']) := by
  have hclose : Closes .escaped [')'] [.mark ')'] := Closes.of_run rfl
  have hword : Level [.word w] := level_of_isFlat (by simp [Token.IsFlat])
  refine ⟨?_, hword.append (level_bracketed hts)⟩
  exact (((Closes.of_run hf).append_reads h).append_closes hclose (fun rest => separated_cons_append rfl [] rest)).reads

theorem closes_call {f : List Char} {us : List Token} (hf : Closes .escaped f us) {ls : List (List Char)}
    {tss : List (List Token)} (h : List.Forall₂ IsArgument ls tss) :
    Closes .escaped (f ++ join ", ".toList ls ++ [')']) (us ++ join [.mark ','] tss ++ [.mark ')']) := by
  have hsep : Closes .escaped ", ".toList [.mark ','] := Closes.of_run rfl
  have hclose : Closes .escaped [')'] [.mark ')'] := Closes.of_run rfl
  have hargs := reads_join hsep (fun rest => separated_cons_append rfl _ rest) (h.imp (fun _ _ ha => ha.reads))
  exact (hf.append_reads hargs).append_closes hclose (fun rest => separated_cons_append rfl [] rest)

/-- **The arguments of a call are found again**, whatever follows it. -/
theorem callArguments_call (us : List Token) (hus : ∀ t ∈ us, t ≠ .mark '(') {tss : List (List Token)} (hne : tss ≠ [])
    (h : ∀ ts ∈ tss, Level ts) (rest : List Token) :
    callArguments (us ++ .mark '(' :: (join [.mark ','] tss ++ .mark ')' :: rest)) = tss := by
  rw [callArguments, List.dropWhile_append_of_pos (by simpa using hus), List.dropWhile_cons, if_neg (by simp),
    List.drop_succ_cons, List.drop_zero, parts_join hne h]

theorem level_of_forall₂ {ls : List (List Char)} {tss : List (List Token)} (h : List.Forall₂ IsArgument ls tss) :
    ∀ ts ∈ tss, Level ts := Sequence.forall_mem_of_forall₂ (fun _ _ ha => ha.level) h

theorem callArguments_of_forall₂ {ls : List (List Char)} {tss : List (List Token)} (h : List.Forall₂ IsArgument ls tss)
    (hne : tss ≠ []) (w : List Char) :
    callArguments (.word w :: .mark '(' :: (join [.mark ','] tss ++ [.mark ')'])) = tss :=
  callArguments_call [.word w] (by simp) hne (level_of_forall₂ h) []

/-! ## Annotations -/

def annotationTokens (optional : Bool) (name : String) : List Token :=
  if optional then [.word "Optional".toList, .mark '[', .word name.toList, .mark ']'] else [.word name.toList]

theorem annotationTokens_ne (optional : Bool) (name : String) :
    ∀ t ∈ annotationTokens optional name, t ≠ .mark '=' := by
  cases optional <;> simp [annotationTokens]

theorem reads_annotated (optional : Bool) {name : String} (h : Naming.isPlainIdentifier name.toList = true) :
    Reads .escaped (if optional then "Optional[" ++ name ++ "]" else name).toList (annotationTokens optional name) := by
  have hname : Reads .escaped name.toList [.word name.toList] := reads_plainIdentifier h
  unfold annotationTokens
  cases optional with
  | false => exact hname
  | true =>
    have hopen : Closes .escaped "Optional[".toList [.word "Optional".toList, .mark '['] := Closes.of_run rfl
    have hclose : Closes .escaped "]".toList [.mark ']'] := Closes.of_run rfl
    have htext := (hopen.append_reads hname).append_closes hclose (fun rest => separated_cons_append rfl [] rest)
    rw [if_pos rfl, if_pos rfl, String.toList_append, String.toList_append]
    exact htext.reads

end Source
end Scaffold
