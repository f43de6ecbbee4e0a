import Scaffold.Proofs.Source.Declaration
/-!
# Proofs.Source.Reference — the names that a declaration refers to

The annotation and the value of a declaration refer to names: to their words, apart from those that are keywords of the
language, numerals, or keywords of arguments.  What stands between quotes refers to nothing.
-/
namespace Scaffold
namespace Source

open Text

/-- The word may name something: it does not begin with a digit, and it is no keyword of the language. -/
def isName (w : List Char) : Bool :=
  w.head?.any (fun c => !isDigitAscii c) && decide (String.ofList w ∉ Naming.keywords)

/-- **The names that tokens refer to**, in order; a word in front of an equals sign is the keyword of an argument. -/
def references : List Token → List (List Char)
  | [] => []
  | .word w :: ts =>
    if decide (ts.head? ≠ some (.mark '=')) && isName w then w :: references ts else references ts
  | _ :: ts => references ts

def Declaration.references (d : Declaration) : List (List Char) :=
  Source.references d.annotation ++ Source.references d.value

theorem toList_mem_map_iff {w : String} {l : List String} : w.toList ∈ l.map String.toList ↔ w ∈ l :=
  List.mem_map_of_injective (fun _ _ => String.toList_inj.1)

theorem references_mark (c : Char) (ts : List Token) : references (.mark c :: ts) = references ts := rfl

theorem references_name {w : List Char} (hw : isName w = true) {ts : List Token} (hts : ts.head? ≠ some (.mark '=')) :
    references (.word w :: ts) = w :: references ts := by
  rw [references, if_pos (by simp [hw, hts])]

theorem references_append {b : List Token} (hb : b.head? ≠ some (.mark '=')) : ∀ a : List Token,
    references (a ++ b) = references a ++ references b
  | [] => rfl
  | .quoted q l :: a => references_append hb a
  | .mark c :: a => references_append hb a
  | .word w :: a => by
    have ih := references_append hb a
    have hhead : (a ++ b).head? = some (.mark '=') ↔ a.head? = some (.mark '=') := by
      cases a with
      | nil => simpa using hb
      | cons t a => simp
    rw [List.cons_append, references, references, ih]
    simp only [ne_eq, hhead]
    split <;> rfl

theorem references_join : ∀ tss : List (List Token), references (join [.mark ','] tss) = tss.flatMap references
  | [] => rfl
  | [ts] => by simp [join]
  | ts :: us :: tss => by
    rw [join_cons _ (by simp), List.append_assoc, references_append (by simp), List.flatMap_cons,
      ← references_join (us :: tss)]
    rfl

theorem references_call {w : List Char} (hw : isName w = true) (tss : List (List Token)) :
    references (.word w :: .mark '(' :: (join [.mark ','] tss ++ [.mark ')'])) = w :: tss.flatMap references := by
  rw [references_name hw (by simp), references_mark, references_append (by simp), references_join]
  exact congrArg (w :: ·) (List.append_nil _)

theorem references_keyword (w : List Char) (value : List Token) :
    references (.word w :: .mark '=' :: value) = references value := by
  rw [references, if_neg (by simp)]
  rfl

theorem references_annotationTokens (optional : Bool) {name : String} (h : isName name.toList = true) :
    references (annotationTokens optional name) =
      ((if optional then ["Optional"] else []) ++ [name]).map String.toList := by
  have hoptional : isName "Optional".toList = true := by decide
  cases optional with
  | false => rw [annotationTokens, if_neg (by simp), references_name h (by simp)]; rfl
  | true =>
    rw [annotationTokens, if_pos rfl, references_name hoptional (by simp), references_mark, references_name h (by simp)]
    rfl

end Source
end Scaffold
