import Mathlib.Data.List.Forall2
import Scaffold.Proofs.Artifact.Statement
import Scaffold.Proofs.Sequence
/-!
# Proofs.Artifact.Definition — the definitions that a script holds

A script is read without regard to how it was written: behind its first bracket stand definitions with commas between
them, and a default is the text between quotes behind its word.  What is read there is what the columns are written as,
with each text between quotes laid out (`definitions_of_script`), whatever names and defaults the table has.
-/
namespace Scaffold
namespace Script

open Source Text

/-- **The definitions of a script**: the parts behind the first bracket. -/
def definitions (script : List Char) : List (List Token) :=
  parts 0 (((tokens .doubled script).dropWhile (fun t => decide (t ≠ .mark '('))).drop 1)

/-- **The text that a definition has as its default**, read behind its name. -/
def textDefault? : List Token → Option (List Char)
  | .word w :: .quoted q l :: rest =>
    if w = "DEFAULT".toList ∧ q = '\'' then some l else textDefault? (.quoted q l :: rest)
  | _ :: rest => textDefault? rest
  | [] => none

/-! ## The tokens of a column -/

def nameToken (name : String) : Token :=
  if needsQuotes name.toList then .quoted '"' name.toList else .word (dropFinalNewline name.toList)

def typeTokens : ColumnType → List Token
  | .varchar n => [.word "VARCHAR".toList, .mark '(', .word (numeral n), .mark ')']
  | t => [.word t.sqlName.toList]

/-- The tokens of a default; an expression is whatever it is read as. -/
def defaultTokens : ColumnDefault → List Token
  | .expression w => tokens .doubled w.shown.toList
  | .literal w => [.quoted '\'' w.shown.toList]

def identityTokens : List Token :=
  [.word "GENERATED".toList, .word "ALWAYS".toList, .word "AS".toList, .word "IDENTITY".toList]

def clauseTokens (c : Column) : List Token :=
  if c.primaryKey then identityTokens
  else
    ((c.default?.map (fun d => .word "DEFAULT".toList :: defaultTokens d)).getD []) ++
      (if c.nullable then [] else [.word "NOT".toList, .word "NULL".toList])

def columnTokens (c : Column) : List Token := nameToken c.name :: (typeTokens c.type ++ clauseTokens c)

def keyTokens (t : Table) : List Token :=
  [.word "PRIMARY".toList, .word "KEY".toList, .mark '('] ++
    join [.mark ','] ((t.columns.filter Column.primaryKey).map (fun c => [nameToken c.name])) ++ [.mark ')']

/-! ## Reading a column -/

theorem isWordChar_of_isPlainChar {c : Char} (h : isPlainChar c = true) : isWordChar c = true := by
  simp only [isPlainChar, Bool.or_eq_true, decide_eq_true_eq] at h
  have hpart : ((isUpperAscii c = true ∨ isLowerAscii c = true) ∨ isDigitAscii c = true) ∨ c = '_' →
      isWordChar c = true := fun hc => isWordChar_of_part (by
    simp only [Naming.isIdentifierPart, Naming.isIdentifierStart, Bool.or_eq_true, decide_eq_true_eq]
    tauto)
  rcases h with ((h | rfl) | rfl) | rfl
  · exact hpart h
  all_goals decide

theorem plain_of_not_needsQuotes {name : List Char} (h : needsQuotes name = false) :
    dropFinalNewline name ≠ [] ∧ ∀ c ∈ dropFinalNewline name, isPlainChar c = true := by
  cases name with
  | nil => cases h
  | cons c l =>
    simp only [needsQuotes, Bool.or_eq_false_iff, List.isEmpty_eq_false_iff, Bool.not_eq_false',
      List.all_eq_true] at h
    exact ⟨h.1.2, h.2⟩

theorem reads_identifier (name : String) : Reads .doubled (identifier name).toList [nameToken name] := by
  unfold identifier nameToken
  split
  · simpa using reads_doubled (q := '"') rfl name.toList
  · rename_i hneeds
    obtain ⟨hne, hplain⟩ := plain_of_not_needsQuotes (Bool.eq_false_iff.2 hneeds)
    have hword : Reads .doubled (dropFinalNewline name.toList) [.word (dropFinalNewline name.toList)] :=
      reads_word hne (fun c hc => isWordChar_of_isPlainChar (hplain c hc))
    rcases dropFinalNewline_cases name.toList with heq | heq
    · rwa [heq] at hword ⊢
    · -- the line feed at the end is white space
      have hfeed : Closes .doubled ['\n'] [] := Closes.of_run rfl
      have h := (hword.append_closes hfeed (fun rest => separated_cons_append rfl [] rest)).reads
      rwa [← heq] at h

theorem isFlat_nameToken (name : String) : (nameToken name).IsFlat := by
  unfold nameToken
  split <;> simp [Token.IsFlat]

theorem reads_typeTokens (t : ColumnType) : Reads .doubled t.sqlName.toList (typeTokens t) := by
  cases t with
  | varchar n =>
    have hopen : Closes .doubled "VARCHAR(".toList [.word "VARCHAR".toList, .mark '('] := Closes.of_run rfl
    have hclose : Closes .doubled [')'] [.mark ')'] := Closes.of_run rfl
    have hnumeral : Closes .doubled (numeral n ++ [')']) ([.word (numeral n)] ++ [.mark ')']) :=
      (reads_numeral .doubled n).append_closes hclose (fun rest => separated_cons_append rfl [] rest)
    have htext : (ColumnType.varchar n).sqlName.toList = "VARCHAR(".toList ++ (numeral n ++ [')']) := by
      have hdigits : (toString n).toList = numeral n := by simp [numeral]
      simp only [ColumnType.sqlName, String.toList_append, List.append_assoc, hdigits]
      rfl
    rw [htext]
    exact (hopen.append hnumeral).reads
  | _ => exact Reads.of_whole rfl

theorem level_typeTokens (t : ColumnType) : Level (typeTokens t) := by
  cases t with
  | varchar n =>
    have hword : Level [.word "VARCHAR".toList] := level_of_isFlat (by simp [Token.IsFlat])
    have hlength : Level (.mark '(' :: [.word (numeral n)] ++ [.mark ')']) := level_bracketed (by simp)
    exact hword.append hlength
  | _ => exact level_of_isFlat (by simp [typeTokens, Token.IsFlat])

/-- The tokens of a value as it is written. -/
def writtenTokens : DefaultValue → List Token
  | .text w => [.quoted '\'' w.shown.toList]
  | .number (.ofNat n) => [.word (numeral n)]
  | .number (.negSucc n) => [.mark '-', .word (numeral (n + 1))]
  | .flag false => [.word "false".toList]
  | .flag true => [.word "true".toList]

theorem reads_writtenTokens (v : DefaultValue) :
    Reads .doubled (defaultText (.ofValue v)).toList (writtenTokens v) := by
  cases v with
  | text w =>
    simpa [ColumnDefault.ofValue, defaultText, writtenTokens, sqlLiteral] using
      reads_doubled (q := '\'') rfl w.shown.toList
  | number n =>
    cases n with
    | ofNat n =>
      simpa [ColumnDefault.ofValue, defaultText, DefaultValue.written, intNumeral, writtenTokens] using
        reads_numeral .doubled n
    | negSucc n =>
      have hminus : Closes .doubled ['-'] [.mark '-'] := Closes.of_run rfl
      simpa [ColumnDefault.ofValue, defaultText, DefaultValue.written, intNumeral, writtenTokens] using
        hminus.append_reads (reads_numeral .doubled (n + 1))
  | flag b => cases b <;> exact Reads.of_whole rfl

theorem defaultTokens_ofValue (v : DefaultValue) : defaultTokens (.ofValue v) = writtenTokens v := by
  cases v with
  | text w => rfl
  -- an expression is read as what it is written as
  | number n => exact (reads_writtenTokens (.number n)).tokens_eq
  | flag b => exact (reads_writtenTokens (.flag b)).tokens_eq

theorem isFlat_of_mem_writtenTokens (v : DefaultValue) : ∀ t ∈ writtenTokens v, t.IsFlat := by
  unfold writtenTokens
  split <;> simp [Token.IsFlat]

theorem reads_defaultTokens (v : DefaultValue) :
    Reads .doubled (defaultText (.ofValue v)).toList (defaultTokens (.ofValue v)) := by
  rw [defaultTokens_ofValue]
  exact reads_writtenTokens v

def IsValue (d : ColumnDefault) : Prop := ∃ v, d = .ofValue v

theorem level_columnTokens {c : Column} (h : ∀ d ∈ c.default?, IsValue d) : Level (columnTokens c) := by
  have hclause : ∀ t ∈ clauseTokens c, t.IsFlat := by
    unfold clauseTokens
    split
    · simp [identityTokens, Token.IsFlat]
    · refine List.forall_mem_append.2 ⟨?_, ?_⟩
      · cases hd : c.default? with
        | none => simp
        | some d =>
          obtain ⟨v, rfl⟩ := h d (by simp [hd])
          rw [Option.map_some, Option.getD_some, defaultTokens_ofValue]
          exact List.forall_mem_cons.2 ⟨by simp [Token.IsFlat], isFlat_of_mem_writtenTokens v⟩
      · split <;> simp [Token.IsFlat]
  exact (level_of_isFlat (List.forall_mem_singleton.2 (isFlat_nameToken c.name))).append
    ((level_typeTokens c.type).append (level_of_isFlat hclause))

def clauseText (c : Column) : String :=
  if c.primaryKey then " GENERATED ALWAYS AS IDENTITY"
  else
    (match c.default? with
      | none => ""
      | some d => " DEFAULT " ++ defaultText d) ++
    (if c.nullable then "" else " NOT NULL")

theorem column_eq (c : Column) :
    (column c).toList = (identifier c.name).toList ++ (' ' :: c.type.sqlName.toList ++ (clauseText c).toList) := by
  unfold column clauseText
  split
  · simp
  · cases c.default? <;> simp

theorem trails_clauseTokens {c : Column} (h : ∀ d ∈ c.default?, IsValue d) :
    Trails .doubled (clauseText c).toList (clauseTokens c) := by
  unfold clauseText clauseTokens
  split
  · exact (Reads.of_whole rfl : Reads .doubled "GENERATED ALWAYS AS IDENTITY".toList identityTokens).trails
  · rw [String.toList_append]
    refine Trails.append ?_ ?_
    · cases hd : c.default? with
      | none => exact Trails.nil
      | some d =>
        obtain ⟨v, rfl⟩ := h d (by simp [hd])
        have hword : Closes .doubled "DEFAULT ".toList [.word "DEFAULT".toList] := Closes.of_run rfl
        simpa using (hword.append_reads (reads_defaultTokens v)).trails
    · split
      · exact Trails.nil
      · exact (Reads.of_whole rfl : Reads .doubled "NOT NULL".toList _).trails

theorem reads_column {c : Column} (h : ∀ d ∈ c.default?, IsValue d) :
    Reads .doubled (column c).toList (columnTokens c) := by
  have hrest := (reads_typeTokens c.type).trails.append (trails_clauseTokens h)
  rw [column_eq]
  exact (reads_identifier c.name).append hrest.reads hrest.separated

/-! ## Reading a script -/

theorem reads_keyTokens (t : Table) : Closes .doubled (primaryKey t).toList (keyTokens t) := by
  have hopen : Closes .doubled "PRIMARY KEY (".toList [.word "PRIMARY".toList, .word "KEY".toList, .mark '('] :=
    Closes.of_run rfl
  have hsep : Closes .doubled ", ".toList [.mark ','] := Closes.of_run rfl
  have hclose : Closes .doubled ")".toList [.mark ')'] := Closes.of_run rfl
  have hnames : List.Forall₂ (Reads .doubled)
      (((t.columns.filter Column.primaryKey).map (fun c => identifier c.name)).map String.toList)
      ((t.columns.filter Column.primaryKey).map (fun c => [nameToken c.name])) := by
    rw [List.map_map, List.forall₂_map_left_iff, List.forall₂_map_right_iff, List.forall₂_same]
    exact fun c _ => reads_identifier c.name
  have hkeys := (reads_join hsep (fun rest => separated_cons_append rfl _ rest) hnames).append_closes hclose
    (fun rest => separated_cons_append rfl _ rest)
  unfold primaryKey keyTokens
  simp only [String.toList_append, String.toList_intercalate, intercalate_eq_join, List.append_assoc,
    -String.reduceToList]
  exact hopen.append hkeys

theorem level_keyTokens (t : Table) : Level (keyTokens t) := by
  have hword : Level [.word "PRIMARY".toList, .word "KEY".toList] := level_of_isFlat (by simp [Token.IsFlat])
  have hinner : ∀ u ∈ join [.mark ','] ((t.columns.filter Column.primaryKey).map (fun c => [nameToken c.name])),
      u ≠ .mark '(' ∧ u ≠ .mark ')' := by
    intro u hu
    rcases mem_or_of_mem_join hu with hu | hu
    · simp_all
    · obtain ⟨_, hc, hu⟩ := hu
      obtain ⟨c, -, rfl⟩ := List.mem_map.1 hc
      obtain rfl := List.mem_singleton.1 hu
      exact ⟨(isFlat_nameToken c.name).1, (isFlat_nameToken c.name).2.1⟩
  exact hword.append (level_bracketed hinner)

def definitionTokens (t : Table) : List (List Token) := t.columns.map columnTokens ++ [keyTokens t]

def innerTable (t : Table) : List Char :=
  "REATE TABLE ".toList ++ (identifier t.name).toList ++ " (\n\t".toList ++
    (join ", \n\t".toList ((t.columns.map column ++ [primaryKey t]).map String.toList) ++ ['\n'])

theorem toList_createTable (t : Table) :
    (createTable t).toList = ['\n'] ++ ('C' :: innerTable t ++ [')']) ++ ['\n', '\n'] := by
  have hfirst : "\nCREATE TABLE ".toList = '\n' :: 'C' :: "REATE TABLE ".toList := rfl
  have hlast : "\n)\n\n".toList = ['\n', ')', '\n', '\n'] := rfl
  unfold createTable innerTable
  simp only [String.toList_append, String.toList_intercalate, intercalate_eq_join, hfirst, hlast, List.cons_append,
    List.append_assoc, List.nil_append]

theorem toList_lay_createTable (t : Table) :
    (lay (createTable t)).toList = relaid ('C' :: innerTable t ++ [')']) ++ [';'] := by
  have hink : isBlank 'C' = false ∧ isBlank ')' = false := by decide
  have hfeed : ∀ d ∈ ['\n'], isBlank d = true := List.all_eq_true.1 rfl
  have hfeeds : ∀ d ∈ ['\n', '\n'], isBlank d = true := List.all_eq_true.1 rfl
  rw [toList_lay, toList_createTable, trim_enclosed hfeed hfeeds _ hink.1 hink.2,
    laid_enclosed _ hink.1 hink.2, relaid_enclosed _ hink.1 hink.2]

/-- **The statement that creates a table is read as its definitions in brackets.** -/
theorem closes_table {t : Table} (h : ∀ c ∈ t.columns, ∀ d ∈ c.default?, IsValue d) :
    Closes .doubled ('C' :: innerTable t ++ [')'])
      ([.word "CREATE".toList, .word "TABLE".toList] ++ [nameToken t.name] ++ [.mark '('] ++
        (join [.mark ','] (definitionTokens t) ++ [.mark ')'])) := by
  have hcreate : Closes .doubled "CREATE TABLE ".toList [.word "CREATE".toList, .word "TABLE".toList] :=
    Closes.of_run rfl
  have hopen : Closes .doubled " (\n\t".toList [.mark '('] := Closes.of_run rfl
  have hsep : Closes .doubled ", \n\t".toList [.mark ','] := Closes.of_run rfl
  have hclose : Closes .doubled ['\n', ')'] [.mark ')'] := Closes.of_run rfl
  have hdefinitions : List.Forall₂ (Reads .doubled)
      ((t.columns.map column ++ [primaryKey t]).map String.toList) (definitionTokens t) := by
    rw [definitionTokens, List.map_append, List.map_map]
    refine List.rel_append ?_ (.cons (reads_keyTokens t).reads .nil)
    rw [List.forall₂_map_left_iff, List.forall₂_map_right_iff, List.forall₂_same]
    exact fun c hc => reads_column (h c hc)
  have hhead := (hcreate.append_reads (reads_identifier t.name)).append_closes hopen
    (fun rest => separated_cons_append rfl _ rest)
  have hbody := (reads_join hsep (fun rest => separated_cons_append rfl _ rest) hdefinitions).append_closes hclose
    (fun rest => separated_cons_append rfl _ rest)
  have htext : 'C' :: innerTable t ++ [')'] =
      "CREATE TABLE ".toList ++ (identifier t.name).toList ++ " (\n\t".toList ++
        (join ", \n\t".toList ((t.columns.map column ++ [primaryKey t]).map String.toList) ++ ['\n', ')']) := by
    have hfirst : "CREATE TABLE ".toList = 'C' :: "REATE TABLE ".toList := rfl
    unfold innerTable
    simp only [hfirst, List.cons_append, List.append_assoc, List.nil_append]
  rw [htext]
  exact hhead.append hbody

theorem definitions_lay {t : Table} (h : ∀ c ∈ t.columns, ∀ d ∈ c.default?, IsValue d) (rest : List Char) :
    definitions ((lay (createTable t)).toList ++ rest) = (definitionTokens t).map (List.map Token.relaid) := by
  have hclosed := (closes_table h).relaid (by decide)
  have hname : (nameToken t.name).relaid ≠ .mark '(' := fun hmark =>
    (isFlat_nameToken t.name).1 ((relaid_eq_mark_iff _ _).1 hmark)
  have hlevel : ∀ p ∈ (definitionTokens t).map (List.map Token.relaid), Level p := by
    intro p hp
    obtain ⟨d, hd, rfl⟩ := List.mem_map.1 hp
    rcases List.mem_append.1 hd with hd | hd
    · obtain ⟨c, hc, rfl⟩ := List.mem_map.1 hd
      exact (level_columnTokens (h c hc)).relaid
    · rw [List.mem_singleton.1 hd]
      exact (level_keyTokens t).relaid
  have htokens : tokens .doubled ((lay (createTable t)).toList ++ rest) =
      .word "CREATE".toList :: .word "TABLE".toList :: (nameToken t.name).relaid :: .mark '(' ::
        (join [.mark ','] ((definitionTokens t).map (List.map Token.relaid)) ++
          .mark ')' :: tokens .doubled (';' :: rest)) := by
    rw [toList_lay_createTable, List.append_assoc, hclosed]
    simp [map_join, Token.relaid]
  rw [definitions, htokens]
  simp only [List.dropWhile_cons, ne_eq, reduceCtorEq, not_false_eq_true, decide_true, if_true, hname,
    not_true_eq_false, decide_false, Bool.false_eq_true, if_false, List.drop_succ_cons, List.drop_zero]
  exact parts_join (by simp [definitionTokens]) hlevel _

end Script
end Scaffold
