import Scaffold.Proofs.Artifact.Names
import Scaffold.Proofs.Artifact.ScriptDefault
/-!
# Proofs.Artifact.ScriptStatements — the statements that a script holds

A script is read as statements: behind its comment stand tokens, with a semicolon behind those of each statement.  The
first statement creates the table, and each of the others an index on one column (`Statement.tokens`).  That no index is
lost and none stands twice is due to the checks: names that differ in more than case give index names that differ, so
the order in which they are sorted is strict.
-/
namespace Scaffold

open Naming Source Text

namespace Wording

theorem lowerSigns_map_char : ∀ (l before : List Char),
    lowerSigns before (l.map Sign.char) = (lowerFrom before l).map Sign.char
  | [], _ => rfl
  | c :: l, before => by
    have ih := lowerSigns_map_char l (c :: before)
    by_cases hc : c = 'Σ'
    · subst hc
      have hshown : (l.map Sign.char).map Sign.shown = l := by simp [Function.comp_def, Sign.shown]
      rw [List.map_cons, lowerSigns, hshown, ih, lowerFrom, List.map_append]
    · rw [List.map_cons, lowerSigns, ih, lowerFrom, List.map_append, lowerAt, if_neg hc]
      exact hc

theorem lower_ofText (s : String) : (ofText s).lower = ofText (String.ofList (Text.lower s.toList)) := by
  rw [lower, ofText, lowerSigns_map_char, ofText, String.toList_ofList, Text.lower]

end Wording

theorem Field.of_column {f : Field} {c : Column} (h : f.column = .ok c) :
    c.nullable = !f.required ∧ c.primaryKey = false := by
  obtain ⟨value, -, rfl⟩ := Sequence.map_eq_ok_iff.1 h
  exact ⟨rfl, rfl⟩

namespace Script

/-! ## Statements -/

def uncommented : List Char → List Char
  | '-' :: '-' :: l => l.dropWhile (fun c => decide (c ≠ '\n'))
  | l => l

def sentences (script : List Char) : List (List Token) := words (.mark ';') (tokens .doubled (uncommented script))

/-- **A statement**: one that creates a table with its definitions, or one that creates an index on a column. -/
inductive Statement where
  | table (name : String) (definitions : List (List Token))
  | index (name table column : String)

namespace Statement

def tokens : Statement → List Token
  | .table name definitions =>
    [.word "CREATE".toList, .word "TABLE".toList, nameToken name, .mark '('] ++
      (join [.mark ','] definitions ++ [.mark ')'])
  | .index name owner column =>
    [.word "CREATE".toList, .word "INDEX".toList, nameToken name, .word "ON".toList, nameToken owner, .mark '(',
      nameToken column, .mark ')']

theorem tokens_ne_nil (st : Statement) : st.tokens ≠ [] := by cases st <;> simp [tokens]

end Statement

/-- **The text is laid out as the statement**, whatever follows. -/
def Lays (text : String) (st : Statement) : Prop := Closes .doubled (lay text).toList (st.tokens ++ [.mark ';'])

theorem lays_of_closes {text : String} {p q l : List Char} {c e : Char} {ts : List Token} {st : Statement}
    (htext : text.toList = p ++ (c :: l ++ [e]) ++ q) (hp : ∀ d ∈ p, isBlank d = true) (hq : ∀ d ∈ q, isBlank d = true)
    (hc : isBlank c = false) (he : isBlank e = false) (h : Closes .doubled (c :: l ++ [e]) ts)
    (hst : ts.map Token.relaid = st.tokens) : Lays text st := by
  have hsemicolon : Closes .doubled [';'] [.mark ';'] := Closes.of_run rfl
  rw [Lays, toList_lay, htext, trim_enclosed hp hq l hc he, laid_enclosed l hc he, ← relaid_enclosed l hc he, ← hst]
  exact (h.relaid he).append hsemicolon

/-! ## Names -/

/-- **A token that stands for a name**: the name in quotes, or as a word that lower case does not change. -/
def StandsFor (t : Token) (name : List Char) : Prop := t = .quoted '"' name ∨ t = .word name ∧ lower name = name

theorem lower_eq_of_not_needsQuotes {name : List Char} (h : needsQuotes name = false) : lower name = name := by
  cases name with
  | nil => cases h
  | cons c l =>
    simp only [needsQuotes, Bool.or_eq_false_iff, bne_eq_false_iff_eq] at h
    exact h.1.1.2

theorem standsFor_nameToken {name : String} (h : AllParts name.toList) : StandsFor (nameToken name) name.toList := by
  unfold nameToken
  split
  · exact .inl rfl
  · rename_i hneeds
    have hfeed : dropFinalNewline name.toList = name.toList := by
      rcases dropFinalNewline_cases name.toList with heq | heq
      · exact heq
      · have hpart := h '\n' (by rw [heq]; simp)
        cases hpart
    rw [hfeed]
    exact .inr ⟨rfl, lower_eq_of_not_needsQuotes (by simpa using hneeds)⟩

theorem relaid_nameToken {name : String} (h : AllParts name.toList) : (nameToken name).relaid = nameToken name := by
  rcases standsFor_nameToken h with heq | ⟨heq, -⟩
  · rw [heq, Token.relaid, (relaid_eq_self_iff _).2 (kept_of_ink (fun c hc => isBlank_of_part (h c hc)))]
  · rw [heq]
    rfl

/-! ## The statement of the table -/

theorem lays_createTable {t : Table} (hname : AllParts t.name.toList)
    (h : ∀ c ∈ t.columns, ∀ d ∈ c.default?, IsValue d) :
    Lays (createTable t) (.table t.name ((definitionTokens t).map (List.map Token.relaid))) := by
  have hfeed : ∀ d ∈ ['\n'], isBlank d = true := List.all_eq_true.1 rfl
  have hfeeds : ∀ d ∈ ['\n', '\n'], isBlank d = true := List.all_eq_true.1 rfl
  refine lays_of_closes (toList_createTable t) hfeed hfeeds (by decide) (by decide) (closes_table h) ?_
  simp [Statement.tokens, map_join, relaid_nameToken hname]

/-! ## The tokens of a definition -/

def IsPlain (t : Token) : Prop := t ≠ .mark ';' ∧ t ≠ .word "NULL".toList

theorem isPlain_numeral (n : Nat) : IsPlain (.word (numeral n)) := by
  refine ⟨by simp, fun heq => ?_⟩
  have hmem : 'N' ∈ numeral n := by rw [Token.word.inj heq]; decide
  have hdigit := Nat.isDigit_of_mem_toDigits (by decide) (by decide) hmem
  cases hdigit

theorem isPlain_of_mem_typeTokens (type : ColumnType) : ∀ t ∈ typeTokens type, IsPlain t := by
  cases type with
  | varchar n => simpa [typeTokens, IsPlain] using isPlain_numeral n
  | _ => simp [typeTokens, IsPlain, ColumnType.sqlName]

theorem isPlain_of_mem_defaultTokens (v : DefaultValue) : ∀ t ∈ defaultTokens (.ofValue v), IsPlain t := by
  rw [defaultTokens_ofValue]
  cases v with
  | text w => simp [writtenTokens, IsPlain]
  | number n =>
    cases n with
    | ofNat n => exact List.forall_mem_singleton.2 (isPlain_numeral n)
    | negSucc n =>
      exact List.forall_mem_cons.2 ⟨by simp [IsPlain], List.forall_mem_singleton.2 (isPlain_numeral (n + 1))⟩
  | flag b => cases b <;> simp [writtenTokens, IsPlain]

def valueTokens (c : Column) : List Token :=
  typeTokens c.type ++ (c.default?.map (fun d => .word "DEFAULT".toList :: defaultTokens d)).getD []

theorem isPlain_of_mem_valueTokens {c : Column} (h : ∀ d ∈ c.default?, IsValue d) : ∀ t ∈ valueTokens c, IsPlain t := by
  refine List.forall_mem_append.2 ⟨isPlain_of_mem_typeTokens c.type, ?_⟩
  cases hd : c.default? with
  | none => simp
  | some d =>
    obtain ⟨v, rfl⟩ := h d (by simp [hd])
    exact List.forall_mem_cons.2 ⟨by simp [IsPlain], isPlain_of_mem_defaultTokens v⟩

def notNullTokens : List Token := [.word "NOT".toList, .word "NULL".toList]

theorem columnTokens_eq {c : Column} (hkey : c.primaryKey = false) :
    columnTokens c = nameToken c.name :: (valueTokens c ++ if c.nullable then [] else notNullTokens) := by
  simp [columnTokens, clauseTokens, valueTokens, notNullTokens, hkey]

/-- **A definition says at its end that there must be a value exactly if the column is not nullable.** -/
theorem notNullTokens_suffix_iff {c : Column} (hkey : c.primaryKey = false) (h : ∀ d ∈ c.default?, IsValue d) :
    notNullTokens <:+ (columnTokens c).map Token.relaid ↔ c.nullable = false := by
  rw [columnTokens_eq hkey]
  constructor
  · rintro ⟨front, hfront⟩
    by_contra hnull
    rw [Bool.not_eq_false] at hnull
    rw [hnull, if_pos rfl, List.append_nil, List.map_cons] at hfront
    -- the word would be among what the definition says of type and default
    have hmem : .word "NULL".toList ∈ (valueTokens c).map Token.relaid := by
      cases front with
      | nil => exact (List.cons.inj hfront).2 ▸ List.mem_singleton.2 rfl
      | cons t front => exact (List.cons.inj hfront).2 ▸ by simp [notNullTokens]
    obtain ⟨t, ht, heq⟩ := List.mem_map.1 hmem
    exact (isPlain_of_mem_valueTokens h t ht).2 ((relaid_eq_word_iff t _).1 heq)
  · intro hnull
    rw [hnull, if_neg Bool.false_ne_true]
    exact ⟨((nameToken c.name) :: valueTokens c).map Token.relaid, by simp [notNullTokens]⟩

theorem nameToken_ne_semicolon (name : String) : nameToken name ≠ .mark ';' := by
  unfold nameToken
  split <;> simp

theorem semicolon_not_mem_columnTokens {c : Column} (h : ∀ d ∈ c.default?, IsValue d) :
    .mark ';' ∉ columnTokens c := by
  intro hmem
  rcases List.mem_cons.1 hmem with heq | hmem
  · exact nameToken_ne_semicolon c.name heq.symm
  · cases hkey : c.primaryKey with
    | true =>
      rcases List.mem_append.1 hmem with hmem | hmem
      · exact (isPlain_of_mem_typeTokens c.type _ hmem).1 rfl
      · simp [clauseTokens, hkey, identityTokens] at hmem
    | false =>
      have hbehind : typeTokens c.type ++ clauseTokens c = valueTokens c ++ if c.nullable then [] else notNullTokens :=
        (List.cons.inj (columnTokens_eq hkey)).2
      rcases List.mem_append.1 (hbehind ▸ hmem) with hmem | hmem
      · exact (isPlain_of_mem_valueTokens h _ hmem).1 rfl
      · split at hmem <;> simp [notNullTokens] at hmem

theorem semicolon_not_mem_keyTokens (t : Table) : .mark ';' ∉ keyTokens t := by
  intro hmem
  rcases List.mem_append.1 hmem with hmem | hmem
  · rcases List.mem_append.1 hmem with hmem | hmem
    · simp at hmem
    · rcases mem_or_of_mem_join hmem with hmem | ⟨p, hp, hmem⟩
      · simp at hmem
      · obtain ⟨c, -, rfl⟩ := List.mem_map.1 hp
        exact nameToken_ne_semicolon c.name (List.mem_singleton.1 hmem).symm
  · simp at hmem

theorem semicolon_not_mem_definitions {t : Table} (h : ∀ c ∈ t.columns, ∀ d ∈ c.default?, IsValue d) :
    ∀ p ∈ definitionTokens t, .mark ';' ∉ p := by
  refine List.forall_mem_append.2 ⟨List.forall_mem_map.2 (fun c hc => ?_), List.forall_mem_singleton.2 ?_⟩
  · exact semicolon_not_mem_columnTokens (h c hc)
  · exact semicolon_not_mem_keyTokens t

/-! ## The statement of an index -/

theorem lays_createIndex {table text : String} {i : Index} (htable : AllParts table.toList)
    (hname : AllParts i.name.toList) (hcolumn : AllParts i.column.toList) (h : createIndex table i = .ok text) :
    Lays text (.index i.name table i.column) := by
  have hcreate : Closes .doubled "CREATE INDEX ".toList [.word "CREATE".toList, .word "INDEX".toList] :=
    Closes.of_run rfl
  have hon : Closes .doubled " ON ".toList [.word "ON".toList] := Closes.of_run rfl
  have hopen : Closes .doubled " (".toList [.mark '('] := Closes.of_run rfl
  have hclose : Closes .doubled [')'] [.mark ')'] := Closes.of_run rfl
  have hsep : ∀ l rest : List Char, Separated (' ' :: l ++ rest) := separated_cons_append rfl
  have hread := ((((((hcreate.append_reads (reads_identifier i.name)).append_closes hon (hsep _)).append_reads
    (reads_identifier table)).append_closes hopen (hsep _)).append_reads
      (reads_identifier i.column)).append_closes hclose (separated_cons_append rfl _))
  have htext : text = "CREATE INDEX " ++ identifier i.name ++ " ON " ++ identifier table ++ " (" ++
      identifier i.column ++ ")" := by
    unfold createIndex at h
    split at h
    · cases h
    · exact (Except.ok.inj h).symm
  let inner := "REATE INDEX ".toList ++ (identifier i.name).toList ++ " ON ".toList ++ (identifier table).toList ++
    " (".toList ++ (identifier i.column).toList
  have hinner : "CREATE INDEX ".toList ++ (identifier i.name).toList ++ " ON ".toList ++ (identifier table).toList ++
      " (".toList ++ (identifier i.column).toList ++ [')'] = 'C' :: inner ++ [')'] := rfl
  rw [hinner] at hread
  refine lays_of_closes (p := []) (q := []) ?_ (List.forall_mem_nil _) (List.forall_mem_nil _) (by decide) (by decide)
    hread ?_
  · rw [htext, List.nil_append, List.append_nil, ← hinner]
    simp only [String.toList_append]
    rfl
  · simp [Statement.tokens, relaid_nameToken htable, relaid_nameToken hname, relaid_nameToken hcolumn]

/-! ## Reading a script -/

theorem closes_statements {texts : List String} {statements : List Statement} (h : List.Forall₂ Lays texts statements) :
    Closes .doubled ((texts.map lay).flatMap (fun l => "\n\n".toList ++ l.toList))
      ((statements.map Statement.tokens).flatMap (fun ts => ts ++ [.mark ';'])) := by
  induction h with
  | nil => exact Closes.nil
  | cons h _ ih =>
    have hfeeds : Closes .doubled "\n\n".toList [] := Closes.of_run rfl
    exact (hfeeds.append h).append ih

theorem uncommented_comment {comment : List Char} (h : '\n' ∉ comment) (rest : List Char) :
    uncommented ('-' :: '-' :: comment ++ '\n' :: rest) = '\n' :: rest := by
  have hmem : ∀ c ∈ comment, decide (c ≠ '\n') = true := fun c hc => by
    rw [decide_eq_true_eq]
    rintro rfl
    exact h hc
  rw [List.cons_append, List.cons_append, uncommented, List.dropWhile_append_of_pos hmem]
  rfl

theorem sentences_of_lays {name : String} (hname : '\n' ∉ name.toList) {texts : List String} (hne : texts ≠ [])
    {statements : List Statement} (h : List.Forall₂ Lays texts statements)
    (hsep : ∀ st ∈ statements, .mark ';' ∉ st.tokens) :
    sentences ("\n\n".intercalate (("-- " ++ name ++ " schema") :: texts.map lay) ++ "\n").toList =
      statements.map Statement.tokens := by
  have hcomment : '\n' ∉ " ".toList ++ name.toList ++ " schema".toList := by simp [hname]
  let body := (texts.map lay).flatMap (fun l => "\n\n".toList ++ l.toList) ++ ['\n']
  have hscript : ("\n\n".intercalate (("-- " ++ name ++ " schema") :: texts.map lay) ++ "\n").toList =
      '-' :: '-' :: (" ".toList ++ name.toList ++ " schema".toList) ++ body := by
    rw [String.toList_append, String.toList_intercalate, intercalate_eq_join, List.map_cons, join_cons_eq_flatMap,
      List.flatMap_map, List.append_assoc]
    simp only [String.toList_append]
    rfl
  have hfeed : ∃ rest, body = '\n' :: rest := by
    obtain ⟨text, texts, rfl⟩ := List.exists_cons_of_ne_nil hne
    exact ⟨_, rfl⟩
  obtain ⟨rest, hrest⟩ := hfeed
  have hread : tokens .doubled body = (statements.map Statement.tokens).flatMap (fun ts => ts ++ [.mark ';']) :=
    (closes_statements h ['\n']).trans (List.append_nil _)
  rw [sentences, hscript, hrest, uncommented_comment hcomment, ← hrest, hread,
    words_flatMap (List.forall_mem_map.2 hsep) (List.forall_mem_map.2 (fun st _ => st.tokens_ne_nil))]

theorem semicolon_not_mem_table (name : String) {definitions : List (List Token)}
    (h : ∀ p ∈ definitions, .mark ';' ∉ p) : .mark ';' ∉ (Statement.table name definitions).tokens := by
  intro hmem
  rcases List.mem_append.1 hmem with hmem | hmem
  · simp [(nameToken_ne_semicolon name).symm] at hmem
  · rcases List.mem_append.1 hmem with hmem | hmem
    · rcases mem_or_of_mem_join hmem with hmem | ⟨p, hp, hmem⟩
      · simp at hmem
      · exact h p hp hmem
    · simp at hmem

theorem semicolon_not_mem_index (name owner column : String) :
    .mark ';' ∉ (Statement.index name owner column).tokens := by
  simp [Statement.tokens, (nameToken_ne_semicolon name).symm, (nameToken_ne_semicolon owner).symm,
    (nameToken_ne_semicolon column).symm]

def indexStatement (t : Table) (i : Index) : Statement := .index i.name t.name i.column

structure PlainNames (t : Table) : Prop where
  table : AllParts t.name.toList
  indexes : ∀ i ∈ t.indexes, AllParts i.name.toList ∧ AllParts i.column.toList

/-- **The statements of a table are read back**: the table, then its indexes. -/
theorem sentences_of_statements {name : String} (hname : '\n' ∉ name.toList) {t : Table} (hplain : PlainNames t)
    (hvalues : ∀ c ∈ t.columns, ∀ d ∈ c.default?, IsValue d) {l : List String} (h : statements t = .ok l) :
    sentences ("\n\n".intercalate (("-- " ++ name ++ " schema") :: l) ++ "\n").toList =
      (.table t.name ((definitionTokens t).map (List.map Token.relaid)) ::
        t.sortedIndexes.map (indexStatement t)).map Statement.tokens := by
  obtain ⟨texts, htexts, rfl⟩ := Sequence.map_eq_ok_iff.1 h
  have hindexes : List.Forall₂ Lays texts (t.sortedIndexes.map (indexStatement t)) := by
    rw [List.forall₂_map_right_iff]
    have hall := (List.forall₂_and_left _ _).2
      ⟨fun i (hi : i ∈ t.sortedIndexes) => hi, (Sequence.mapM_eq_ok_iff _ _ _).1 htexts⟩
    refine hall.flip.imp (fun text i ⟨hi, htext⟩ => ?_)
    obtain ⟨hindex, hcolumn⟩ := hplain.indexes i (Table.mem_sortedIndexes.1 hi)
    exact lays_createIndex hplain.table hindex hcolumn htext
  refine sentences_of_lays hname (List.cons_ne_nil _ _) (.cons (lays_createTable hplain.table hvalues) hindexes) ?_
  refine List.forall_mem_cons.2 ⟨semicolon_not_mem_table t.name (List.forall_mem_map.2 (fun p hp hmem => ?_)),
    List.forall_mem_map.2 (fun i _ => semicolon_not_mem_index i.name t.name i.column)⟩
  obtain ⟨u, hu, heq⟩ := List.mem_map.1 hmem
  exact semicolon_not_mem_definitions hvalues p hp ((relaid_eq_mark_iff u ';').1 heq ▸ hu)

end Script

namespace Schema

/-! ## Index names -/

theorem allParts_indexName {table : String} (htable : AllParts table.toList) {f : Field} {n : String}
    (hname : f.name = Wording.ofText n) (hn : AllParts n.toList) : AllParts (Table.indexName table f).toList := by
  have hlower : f.name.lower.shown = String.ofList (Text.lower n.toList) := by
    rw [hname, Wording.lower_ofText, Wording.shown_ofText]
  rw [Table.indexName, hlower]
  simp only [String.toList_append, String.toList_ofList, allParts_append]
  exact ⟨⟨⟨List.all_eq_true.1 rfl, htable⟩, List.all_eq_true.1 rfl⟩, allParts_lowerFrom [] hn⟩

theorem Accepted.nodup_indexNames {s : Schema} (h : s.Accepted) : s.indexNames.Nodup := by
  have hlower : (s.dataFields.filter Field.indexed).Pairwise (fun f g => f.name.lower ≠ g.name.lower) :=
    List.pairwise_map.1 (h.distinct.sublist ((List.filter_sublist.trans List.eraseP_sublist).map _))
  rw [indexNames, List.Nodup, List.pairwise_map]
  refine hlower.imp_of_mem (fun {f g} hf hg hne heq => hne ?_)
  have hshown : ∀ f ∈ s.dataFields.filter Field.indexed, Wording.ofText f.name.lower.shown = f.name.lower := by
    intro f hf
    rw [← h.ofText_shown (List.mem_filter.1 hf).1, Wording.lower_ofText, Wording.shown_ofText]
  have heq : f.name.lower.shown = g.name.lower.shown := by
    simpa [Table.indexName, ← String.toList_inj] using heq
  rw [← hshown f hf, heq, hshown g hg]

theorem Accepted.pairwise_lt_sortedIndexes {s : Schema} (h : s.Accepted) {t : Table} (ht : s.table = .ok t) :
    t.sortedIndexes.Pairwise (fun a b => a.name < b.name) := by
  have hperm : t.sortedIndexes.Perm t.indexes := List.mergeSort_perm t.indexes _
  have hnames : t.indexes.map Index.name = s.indexNames := by
    obtain ⟨_, -, rfl⟩ := exists_of_table_eq_ok ht
    exact List.map_map
  have hnodup : t.sortedIndexes.Pairwise (fun a b => a.name ≠ b.name) := by
    rw [← List.pairwise_map (R := (· ≠ ·)), ← List.Nodup, (hperm.map Index.name).nodup_iff, hnames]
    exact h.nodup_indexNames
  refine (t.pairwise_sortedIndexes.and hnodup).imp (fun {a b} ⟨hle, hne⟩ => ?_)
  exact String.not_le.1 (fun hge => hne (String.le_antisymm hle hge))

/-! ## The script of a schema -/

theorem Named.exists_name_eq {s : Schema} (h : s.Named) {f : Field} (hf : f ∈ s.dataFields) :
    ∃ n, f.name = Wording.ofText n ∧ AllParts n.toList :=
  ⟨f.name.shown, (h.accepted.ofText_shown hf).symm, forall_mem_of_isPlainIdentifier (h.isPlainIdentifier_name hf)⟩

theorem Named.plainNames {s : Schema} (h : s.Named) {t : Table} (ht : s.table = .ok t) : Script.PlainNames t := by
  obtain ⟨_, -, rfl⟩ := exists_of_table_eq_ok ht
  refine ⟨h.allParts_tableName, List.forall_mem_map.2 (fun f hf => ?_)⟩
  obtain ⟨n, hname, hn⟩ := h.exists_name_eq (List.mem_filter.1 hf).1
  refine ⟨allParts_indexName h.allParts_tableName hname hn, ?_⟩
  rw [Table.indexOf, hname, Wording.shown_ofText]
  exact hn

end Schema

namespace Script

def identityDefinition : List Token := .word "id".toList :: .word "INTEGER".toList :: identityTokens

def keyDefinition : List Token :=
  [.word "PRIMARY".toList, .word "KEY".toList, .mark '(', .word "id".toList, .mark ')']

/-- **A definition declares a column**: it is one part between commas, begins with the name of the column and says at
its end whether there must be a value. -/
structure Declares (c : Column) (definition : List Token) : Prop where
  level : Level definition
  name : definition.head? = some (nameToken c.name)
  notNull : notNullTokens <:+ definition ↔ c.nullable = false

theorem filter_primaryKey_of_columns {t : Table} {columns : List Column}
    (h : t.columns = Table.identityColumn :: columns)
    (hkeys : ∀ c ∈ columns, c.primaryKey = false) : t.columns.filter Column.primaryKey = [Table.identityColumn] := by
  rw [h, List.filter_cons_of_pos rfl, List.filter_eq_nil_iff.2 (fun c hc => by simp [hkeys c hc])]

theorem definitionTokens_of_columns {t : Table} {columns : List Column}
    (h : t.columns = Table.identityColumn :: columns)
    (hkeys : ∀ c ∈ columns, c.primaryKey = false) : (definitionTokens t).map (List.map Token.relaid) =
      identityDefinition :: columns.map (fun c => (columnTokens c).map Token.relaid) ++ [keyDefinition] := by
  have hid : keyTokens t = keyDefinition := by
    rw [keyTokens, filter_primaryKey_of_columns h hkeys]
    decide
  have hidentity : (columnTokens Table.identityColumn).map Token.relaid = identityDefinition := by decide
  have hrelaid : keyDefinition.map Token.relaid = keyDefinition := rfl
  rw [definitionTokens, hid, h, List.map_append, List.map_cons, List.map_cons, hidentity, List.map_map,
    List.map_singleton, hrelaid]
  rfl

end Script

namespace Schema

section Columns

variable {s : Schema} {columns : List Column}

theorem Named.sound_columns (h : s.Named)
    (hcolumns : List.Forall₂ (fun f c => Field.column f = .ok c) s.dataFields columns) :
    ∀ c ∈ columns, c.primaryKey = false ∧ AllParts c.name.toList ∧ ∀ d ∈ c.default?, Script.IsValue d := by
  have hboth := (List.forall₂_and_left _ _).2 ⟨fun f (hf : f ∈ s.dataFields) => hf, hcolumns⟩
  refine Sequence.forall_mem_of_forall₂ (fun f c ⟨hf, hc⟩ => ?_) hboth
  refine ⟨(Field.of_column hc).2, ?_, Script.isValue_of_column hc⟩
  rw [Field.name_of_column hc]
  exact forall_mem_of_isPlainIdentifier (h.isPlainIdentifier_name hf)

theorem Named.forall₂_columns (h : s.Named)
    (hcolumns : List.Forall₂ (fun f c => Field.column f = .ok c) s.dataFields columns) :
    List.Forall₂ (fun f c => (c.name : Wording) = f.name ∧ c.nullable = !f.required) s.dataFields columns := by
  have hboth := (List.forall₂_and_left _ _).2 ⟨fun f (hf : f ∈ s.dataFields) => hf, hcolumns⟩
  refine hboth.imp (fun f c ⟨hf, hc⟩ => ⟨?_, (Field.of_column hc).1⟩)
  rw [Field.name_of_column hc, h.accepted.ofText_shown hf]

theorem Named.standsFor_names {t : Table} (h : s.Named) (ht : s.table = .ok t)
    (hall : t.columns = Table.identityColumn :: columns) (hcolumns : ∀ c ∈ columns, AllParts c.name.toList) :
    ∀ name ∈ t.name :: t.columns.map Column.name ++ t.sortedIndexes.map Index.name,
      Script.StandsFor (Script.nameToken name) name.toList := by
  have hplain := h.plainNames ht
  rw [hall]
  refine List.forall_mem_append.2 ⟨List.forall_mem_cons.2 ⟨Script.standsFor_nameToken hplain.table, ?_⟩, ?_⟩
  · refine List.forall_mem_map.2 (List.forall_mem_cons.2 ⟨?_, fun c hc => ?_⟩)
    · exact Script.standsFor_nameToken (List.all_eq_true.1 rfl)
    · exact Script.standsFor_nameToken (hcolumns c hc)
  · refine List.forall_mem_map.2 (fun i hi => ?_)
    exact Script.standsFor_nameToken (hplain.indexes i (Table.mem_sortedIndexes.1 hi)).1

end Columns

/-- **The script of a schema without errors is what its fields declare.**  The table has the identity column as its only
key, then a column for each data field, in declared order and under its own name, which is nullable exactly if the field
is not required.  The statements of the script are the one that creates this table and, for each data field that asks
for an index, one that creates an index on its column alone; the names of the indexes are in strictly increasing order.
Every name stands in the script as it is. -/
theorem script_as_declared {threshold : Int} {s : Schema} (h : (s.validate threshold).errors = [])
    (hnames : ∀ w ∈ s.names, w.In identifiers) (hfit : s.IndexNamesFit) : ∃ t columns definitions text,
    s.table = .ok t ∧ s.script = .ok text ∧
    (t.columns = Table.identityColumn :: columns ∧ t.columns.filter Column.primaryKey = [Table.identityColumn]) ∧
    List.Forall₂ (fun f c => (c.name : Wording) = f.name ∧ c.nullable = !f.required) s.dataFields columns ∧
    Script.sentences text.toList =
      (.table t.name (Script.identityDefinition :: definitions ++ [Script.keyDefinition]) ::
        t.sortedIndexes.map (fun i => .index i.name t.name i.column)).map Script.Statement.tokens ∧
    List.Forall₂ Script.Declares columns definitions ∧
    t.sortedIndexes.Perm ((s.dataFields.filter Field.indexed).map (Table.indexOf s.tableName)) ∧
    t.sortedIndexes.Pairwise (fun a b => a.name < b.name) ∧
    ∀ name ∈ t.name :: t.columns.map Column.name ++ t.sortedIndexes.map Index.name,
      Script.StandsFor (Script.nameToken name) name.toList := by
  have hs := Named.of_errors h hnames
  obtain ⟨text, htext⟩ := hs.accepted.exists_script_eq_ok_iff.2 hfit
  obtain ⟨t, ht, hrest⟩ := Sequence.bind_eq_ok_iff.1 htext
  obtain ⟨l, hl, hrest⟩ := Sequence.bind_eq_ok_iff.1 hrest
  obtain rfl := Except.ok.inj hrest
  obtain ⟨columns, hcolumns, hall⟩ := Script.columns_of_table ht
  have hsound := hs.sound_columns hcolumns
  have hvalues : ∀ c ∈ t.columns, ∀ d ∈ c.default?, Script.IsValue d := by
    rw [hall]
    exact List.forall_mem_cons.2 ⟨by simp [Table.identityColumn], fun c hc => (hsound c hc).2.2⟩
  have hentity : '\n' ∉ s.entityName.shown.toList := fun hmem => by
    have hpart := allParts_entityName_of_in hs.entityName_in _ hmem
    cases hpart
  refine ⟨t, columns, columns.map (fun c => (Script.columnTokens c).map Token.relaid), _, ht, htext,
    ⟨hall, Script.filter_primaryKey_of_columns hall (fun c hc => (hsound c hc).1)⟩, hs.forall₂_columns hcolumns, ?_, ?_,
    ?_, hs.accepted.pairwise_lt_sortedIndexes ht, hs.standsFor_names ht hall (fun c hc => (hsound c hc).2.1)⟩
  · rw [Script.sentences_of_statements hentity (hs.plainNames ht) hvalues hl,
      Script.definitionTokens_of_columns hall (fun c hc => (hsound c hc).1)]
    rfl
  · rw [List.forall₂_map_right_iff, List.forall₂_same]
    intro c hc
    obtain ⟨hkey, hname, hvalue⟩ := hsound c hc
    refine ⟨(Script.level_columnTokens hvalue).relaid, ?_, Script.notNullTokens_suffix_iff hkey hvalue⟩
    rw [Script.columnTokens, List.map_cons, List.head?_cons, Script.relaid_nameToken hname]
  · have hperm : t.sortedIndexes.Perm t.indexes := List.mergeSort_perm t.indexes _
    obtain ⟨_, -, rfl⟩ := exists_of_table_eq_ok ht
    exact hperm

def shelves : Schema :=
  { entityName := "BookShelf",
    fields := [{ id := "1", name := "Title", required := true, indexed := true },
      { id := "2", name := "ID", type := .number },
      { id := "3", name := "author", indexed := true },
      { id := "4", name := "select", type := .number, required := true, default? := some ("-3" : Wording) }] }

/-- **The indexes of the shelves stand in order**, each on its own column. -/
theorem shelves_indexes : (shelves.validate defaultThreshold).errors = [] ∧ (∀ w ∈ shelves.names, w.In identifiers) ∧
    shelves.IndexNamesFit ∧ ∃ definitions text, shelves.script = .ok text ∧
      Script.sentences text.toList = [
        (Script.Statement.table "book_shelfs"
          (Script.identityDefinition :: definitions ++ [Script.keyDefinition])).tokens,
        (Script.Statement.index "ix_book_shelfs_author" "book_shelfs" "author").tokens,
        (Script.Statement.index "ix_book_shelfs_title" "book_shelfs" "Title").tokens] := by
  have herrors : (shelves.validate defaultThreshold).errors = [] := by decide +kernel
  have hnames : ∀ w ∈ shelves.names, w.In identifiers := by
    have hall : shelves.names = ["BookShelf", "Title", "ID", "author", "select"].map Wording.ofText := rfl
    rw [hall]
    exact List.forall_mem_map.2 (fun text htext => Wording.ofText_in_identifiers text (by revert text; decide))
  have hfit : shelves.IndexNamesFit := by decide +kernel
  obtain ⟨t, columns, definitions, text, ht, htext, -, -, hread, -, hperm, hlt, -⟩ :=
    script_as_declared herrors hnames hfit
  have hname : t.name = "book_shelfs" := by
    obtain ⟨_, -, rfl⟩ := exists_of_table_eq_ok ht
    have htable : shelves.tableName = "book_shelfs" := by decide +kernel
    exact htable
  have hindexes : t.sortedIndexes = [⟨"ix_book_shelfs_author", "author"⟩, ⟨"ix_book_shelfs_title", "Title"⟩] := by
    have hdeclared : (shelves.dataFields.filter Field.indexed).map (Table.indexOf shelves.tableName) =
        [⟨"ix_book_shelfs_title", "Title"⟩, ⟨"ix_book_shelfs_author", "author"⟩] := by decide +kernel
    rw [hdeclared] at hperm
    refine (hperm.trans (List.Perm.swap _ _ [])).eq_of_pairwise (fun a b _ _ hab hba => ?_) hlt (by decide)
    exact absurd hab (String.lt_asymm hba)
  rw [hname, hindexes] at hread
  exact ⟨herrors, hnames, hfit, definitions, text, htext, hread⟩

end Schema
end Scaffold
