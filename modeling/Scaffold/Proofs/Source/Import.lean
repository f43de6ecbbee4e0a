import Scaffold.Proofs.Source.Block
/-!
# Proofs.Source.Import — the imports of a module

A module begins with its imports: lines of which the first word says that they import something, and empty lines between
them.  A line imports names from a source (`importedFrom_eq`), and the imports of a module are found again up to the
first line that is something else (`importBlock_eq`).
-/
namespace Scaffold
namespace Source

open Text

def Token.word? : Token → Option (List Char)
  | .word w => some w
  | _ => none

def isImport (l : List Char) : Bool :=
  match tokens .escaped l with
  | [] => true
  | .word w :: _ => decide (w = "from".toList ∨ w = "import".toList)
  | _ => false

/-- **The imports of a module**: the lines before the first that is something else. -/
def importBlock (text : String) : List (List Char) := (textLines text).takeWhile isImport

def importWord : Token := .word "import".toList

def importSides (ts : List Token) : List Token × List Token :=
  (ts.takeWhile (fun t => decide (t ≠ importWord)), (ts.dropWhile (fun t => decide (t ≠ importWord))).drop 1)

/-- **The names that a line imports from a source**: the words behind it. -/
def importedFrom (source : String) (l : List Char) : List (List Char) :=
  let (front, names) := importSides (tokens .escaped l)
  if front = .word "from".toList :: tokens .escaped source.toList then names.filterMap Token.word? else []

def importedNames (source text : String) : List (List Char) := (importBlock text).flatMap (importedFrom source)

/-! ## Reading them -/

theorem importSides_append {ts : List Token} (h : ∀ t ∈ ts, t ≠ importWord) (names : List Token) :
    importSides (ts ++ [importWord] ++ names) = (ts, names) := by
  have hpos : ∀ t ∈ ts, decide (t ≠ importWord) = true := by simpa only [decide_eq_true_eq] using h
  rw [importSides, List.append_assoc, List.takeWhile_append_of_pos hpos, List.dropWhile_append_of_pos hpos]
  simp

theorem filterMap_word?_join : ∀ names : List String,
    (join [.mark ','] (names.map (fun n => [.word n.toList]))).filterMap Token.word? = names.map String.toList
  | [] => rfl
  | [n] => rfl
  | n :: m :: names => by
    rw [List.map_cons, join_cons _ (by simp), List.filterMap_append, List.filterMap_append,
      filterMap_word?_join (m :: names)]
    rfl

theorem isImport_of_prefix {l : List Char} (h : ['f', 'r', 'o', 'm', ' '] <+: l) : isImport l = true := by
  have hfrom : Closes .escaped ['f', 'r', 'o', 'm', ' '] [.word "from".toList] := Closes.of_run rfl
  obtain ⟨rest, rfl⟩ := h
  rw [isImport, hfrom]
  rfl

theorem isImport_ofList {l : List Char} (h : ['f', 'r', 'o', 'm', ' '] <+: l) :
    isImport (String.ofList l).toList = true := by
  rw [String.toList_ofList]
  exact isImport_of_prefix h

theorem importedFrom_eq {source : String} {us : List Token} (hsource : Reads .escaped source.toList us)
    (hus : ∀ u ∈ us, u ≠ importWord) {names : List String}
    (hnames : ∀ n ∈ names, Naming.isPlainIdentifier n.toList = true) (other : String) :
    importedFrom other ("from " ++ source ++ " import " ++ ", ".intercalate names).toList =
      if us = tokens .escaped other.toList then names.map String.toList else [] := by
  have hfrom : Closes .escaped "from ".toList [.word "from".toList] := Closes.of_run rfl
  have himport : Closes .escaped " import ".toList [importWord] := Closes.of_run rfl
  have hcomma : Closes .escaped ", ".toList [.mark ','] := Closes.of_run rfl
  have hwords : List.Forall₂ (Reads .escaped) (names.map String.toList) (names.map (fun n => [.word n.toList])) := by
    rw [List.forall₂_map_left_iff, List.forall₂_map_right_iff, List.forall₂_same]
    exact fun n hn => reads_plainIdentifier (hnames n hn)
  have hhead := (hfrom.append_reads hsource).append_closes himport (fun rest => separated_cons_append rfl _ rest)
  have hline := (hhead.append_reads (reads_join hcomma (fun rest => separated_cons_append rfl _ rest) hwords)).tokens_eq
  have htext : ("from " ++ source ++ " import " ++ ", ".intercalate names).toList =
      "from ".toList ++ source.toList ++ " import ".toList ++ join ", ".toList (names.map String.toList) := by
    simp only [String.toList_append, String.toList_intercalate, intercalate_eq_join]
  have hfront : ∀ t ∈ [.word "from".toList] ++ us, t ≠ importWord :=
    List.forall_mem_cons.2 ⟨by decide, hus⟩
  have hsides := importSides_append hfront (join [.mark ','] (names.map (fun n => [.word n.toList])))
  rw [htext, importedFrom, hline, hsides, ← filterMap_word?_join]
  simp only [List.singleton_append, List.cons.injEq, true_and]

theorem importBlock_eq {imports : List String} {next : String} (hone : ∀ l ∈ imports, OneLine l) (hnext : OneLine next)
    (himports : ∀ l ∈ imports, isImport l.toList = true) (hother : isImport next.toList = false) (rest : List String) :
    importBlock ("\n".intercalate (imports ++ next :: rest) ++ "\n") = imports.map String.toList := by
  have hlines : ∀ l ∈ imports ++ [next], OneLine l :=
    List.forall_mem_append.2 ⟨hone, List.forall_mem_singleton.2 hnext⟩
  have htext := textLines_append (by simp) hlines rest
  rw [List.append_assoc, List.singleton_append] at htext
  rw [importBlock, htext, List.map_append, List.append_assoc,
    List.takeWhile_append_of_pos (List.forall_mem_map.2 himports), List.map_singleton, List.singleton_append,
    List.takeWhile_cons_of_neg (by simp [hother]), List.append_nil]

end Source
end Scaffold
