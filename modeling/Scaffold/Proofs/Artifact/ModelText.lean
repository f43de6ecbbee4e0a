import Scaffold.Proofs.Artifact.Compilation
import Scaffold.Proofs.Artifact.ModelDefault
import Scaffold.Proofs.Artifact.Names
import Scaffold.Proofs.Source.Block
/-!
# Proofs.Artifact.ModelText — a model, read back

The text of a model is read as lines, and the class among them as its declarations.  For a schema whose names are
identifiers they are the identity and the mapped attributes, each with the call that is its value, and the keyed data
are the attributes under the names of their fields (`Named.model_read`).
-/
namespace Scaffold

open Naming Source Text

theorem Storage.oneLine_expression (s : Storage) : OneLine s.expression := by
  cases s with
  | string n =>
    exact oneLine_append.2 ⟨oneLine_append.2 ⟨by decide, oneLine_of_part (fun d hd =>
      part_of_mem_numeral (n := n) (by simpa [numeral] using hd))⟩, by decide⟩
  | _ => decide

theorem ModelDefault.oneLine_argument (v : DefaultValue) : OneLine (ofValue v).argument := by
  have hwritten : (∀ w, v ≠ .text w) → OneLine v.written.shown := fun hv =>
    oneLine_of_shown (fun x hx => (isPlain_written v hv x hx).1)
  cases v with
  | text w => exact oneLine_quoted w
  | number n => exact oneLine_append.2 ⟨oneLine_append.2 ⟨by decide, hwritten (by simp)⟩, by decide⟩
  | flag b => exact oneLine_append.2 ⟨oneLine_append.2 ⟨by decide, hwritten (by simp)⟩, by decide⟩

namespace MappedColumn

def declaration (c : MappedColumn) : Declaration where
  name := c.attr.toList
  annotation := .word "Mapped".toList :: .mark '[' :: (annotationTokens c.optional c.binding.name ++ [.mark ']'])
  value := c.callTokens

theorem declared?_line {c : MappedColumn} (h : c.HasValue) (hattr : isPlainIdentifier c.attr.toList = true) :
    declared? c.line.toList = some c.declaration := by
  have htext : Trails .escaped c.declaredText.toList
      (.mark ':' :: (c.declaration.annotation ++ .mark '=' :: c.callTokens)) := by
    refine ⟨(closes_declaredText h).reads, fun rest _ => ?_⟩
    unfold declaredText
    simp only [String.toList_append, List.append_assoc]
    exact separated_cons_append rfl _ _
  have hhead : ∀ t ∈ c.declaration.annotation, t ≠ .mark '=' := by
    have hannotated := annotationTokens_ne c.optional c.binding.name
    unfold declaration
    simp only [List.forall_mem_cons, List.forall_mem_append]
    exact ⟨by simp, by simp, hannotated, by simp, by simp⟩
  rw [c.line_eq, Source.declared?_line hattr htext, sides_append hhead]
  rfl

theorem oneLine_arguments {c : MappedColumn} (h : c.HasValue) : ∀ x ∈ c.arguments, OneLine x := by
  intro x hx
  simp only [arguments, List.mem_append, Option.mem_toList, Option.map_eq_some_iff, List.mem_singleton] at hx
  rcases hx with (((⟨w, -, rfl⟩ | rfl) | rfl) | ⟨d, hd, rfl⟩) | hx
  · exact oneLine_quoted w
  · exact c.storage.oneLine_expression
  · cases c.optional <;> decide
  · obtain ⟨v, rfl⟩ := h d hd
    exact oneLine_append.2 ⟨by decide, ModelDefault.oneLine_argument v⟩
  · cases hindex : c.index with
    | false => simp [hindex] at hx
    | true =>
      obtain rfl : x = "index=True" := by simpa [hindex] using hx
      decide

theorem oneLine_line {c : MappedColumn} (h : c.HasValue) (hattr : isPlainIdentifier c.attr.toList = true) :
    OneLine c.line := by
  have hannotated : OneLine c.annotation := by
    unfold annotation
    cases c.optional <;> cases c.binding <;> decide
  have hname : OneLine c.attr := oneLine_of_part (forall_mem_of_isPlainIdentifier hattr)
  unfold line
  simp only [oneLine_append]
  refine ⟨⟨⟨⟨⟨⟨?_, hname⟩, ?_⟩, hannotated⟩, ?_⟩, oneLine_intercalate ?_ (oneLine_arguments h)⟩, ?_⟩ <;>
    exact oneLine_ofList (by decide)

theorem depth_line {c : MappedColumn} (hattr : isPlainIdentifier c.attr.toList = true) : depth c.line.toList = 4 := by
  have hspaces : "    ".toList = List.replicate 4 ' ' := rfl
  obtain ⟨x, rest, hx, hstart, -⟩ := isPlainIdentifier_eq_true.1 hattr
  simp only [c.line_eq, String.toList_append, List.append_assoc, hspaces, hx]
  refine depth_replicate 4 ?_
  rw [List.cons_append, List.head?_cons]
  rintro heq
  obtain rfl := Option.some.inj heq
  cases hstart

end MappedColumn

theorem Field.attr_of_mappedColumn {f : Field} {attr : String} {c : MappedColumn} (h : f.mappedColumn attr = .ok c) :
    c.attr = attr := by
  obtain ⟨value, -, rfl⟩ := Sequence.map_eq_ok_iff.1 h
  rfl

theorem MappedColumn.map_attr : ∀ {l : List (Field × String)} {columns : List MappedColumn},
    List.Forall₂ (fun p c => p.1.mappedColumn p.2 = .ok c) l columns → columns.map attr = l.map Prod.snd
  | _, _, .nil => rfl
  | _, _, .cons h hs => by rw [List.map_cons, List.map_cons, Field.attr_of_mappedColumn h, map_attr hs]

namespace Schema

/-! ## The lines of a model -/

def modelPreamble (s : Schema) : List String :=
  (if s.usesDate then ["from datetime import date"] else []) ++
  ["from typing import Optional",
   "",
   "from sqlalchemy import " ++ ", ".intercalate s.modelImports,
   "from sqlalchemy.orm import DeclarativeBase, Mapped, mapped_column",
   "",
   "",
   "class Base(DeclarativeBase):",
   "    pass",
   "",
   ""]

def modelHeader (s : Schema) : String := "class " ++ s.className ++ "(Base):"

def tableLine (s : Schema) : String := "    __tablename__ = \"" ++ s.tableName ++ "\""

def identityLine : String := "    id: Mapped[int] = mapped_column(Integer, Identity(always=True), primary_key=True)"

def modelBody (s : Schema) (columns : List MappedColumn) : List String :=
  s.tableLine :: "" :: identityLine :: columns.map MappedColumn.line ++ s.modelTail

theorem modelLines_eq (s : Schema) (columns : List MappedColumn) :
    s.modelHead ++ columns.map MappedColumn.line ++ s.modelTail =
      s.modelPreamble ++ s.modelHeader :: s.modelBody columns := by
  unfold modelHead modelPreamble modelBody
  simp only [List.append_assoc, List.cons_append, List.nil_append]
  rfl

theorem oneLine_of_mem_modelImports {s : Schema} {x : String} (h : x ∈ s.modelImports) : OneLine x := by
  rw [modelImports, List.mem_mergeSort, modelNames, List.mem_eraseDups, List.mem_append, List.mem_append,
    List.mem_map] at h
  rcases h with (h | ⟨f, -, rfl⟩) | h
  · revert h
    revert x
    decide
  · cases f.type <;> decide
  · split at h
    · rw [List.mem_singleton.1 h]
      decide
    · cases h

theorem oneLine_modelPreamble (s : Schema) : ∀ l ∈ s.modelPreamble, OneLine l := by
  have himports : OneLine ("from sqlalchemy import " ++ ", ".intercalate s.modelImports) :=
    oneLine_append.2 ⟨oneLine_ofList (by decide), oneLine_intercalate (oneLine_ofList (by decide))
      (fun x hx => oneLine_of_mem_modelImports hx)⟩
  unfold modelPreamble
  refine List.forall_mem_append.2 ⟨?_, ?_⟩
  · split
    · exact List.forall_mem_singleton.2 (oneLine_ofList (by decide))
    · exact List.forall_mem_nil _
  · simp only [List.forall_mem_cons, List.not_mem_nil, false_implies, implies_true, himports, true_and, and_true]
    and_intros <;> exact oneLine_ofList (by decide)

theorem modelHeader_not_mem (s : Schema) : s.modelHeader ∉ s.modelPreamble := by
  -- one other line begins like the header of a class, and it ends otherwise
  have hbase : s.modelHeader ≠ "class Base(DeclarativeBase):" := by
    intro heq
    have hsuffix : "(Base):".toList <:+ "class Base(DeclarativeBase):".toList := by
      rw [← heq, modelHeader, String.toList_append]
      exact List.suffix_append _ _
    revert hsuffix
    decide
  have hhead : s.modelHeader.toList.head? = some 'c' := by
    rw [modelHeader, String.append_assoc, String.toList_append]
    rfl
  have hother : ∀ l ∈ s.modelPreamble, l = "class Base(DeclarativeBase):" ∨ l.toList.head? ≠ some 'c' := by
    have himports : ("from sqlalchemy import " ++ ", ".intercalate s.modelImports).toList.head? = some 'f' := by
      rw [String.toList_append]
      rfl
    unfold modelPreamble
    refine List.forall_mem_append.2 ⟨?_, ?_⟩
    · split
      · exact List.forall_mem_singleton.2 (.inr (by rw [String.toList_ofList]; decide))
      · exact List.forall_mem_nil _
    · simp only [List.forall_mem_cons, List.not_mem_nil, false_implies, implies_true, himports, and_true]
      refine ⟨.inr ?_, .inr ?_, .inr (by decide), .inr ?_, .inr ?_, .inr ?_, .inl trivial, .inr ?_, .inr ?_,
        .inr ?_⟩ <;>
        (rw [String.toList_ofList]; decide)
  intro hmem
  rcases hother _ hmem with heq | hne
  · exact hbase heq
  · exact hne hhead

/-! ## The lines of the class -/

/-- An entry of the keyed data that holds an attribute. -/
def selfEntry (key : List Char) (attr : List Char) : List Char × List Token :=
  (key, [.word "self".toList, .mark '.', .word attr, .mark ','])

theorem entered?_entryLine (f : Field) {attr : String} (hattr : isPlainIdentifier attr.toList = true) :
    entered? (entryLine f attr).toList = some (selfEntry (f.name.signs.flatMap literalSign) attr.toList) := by
  have hspaces : Closes .escaped "            ".toList [] := closes_spaces 12
  have hself : Closes .escaped ": self.".toList [.mark ':', .word "self".toList, .mark '.'] := Closes.of_run rfl
  have hcomma : Closes .escaped ",".toList [.mark ','] := Closes.of_run rfl
  have hattr : Reads .escaped attr.toList [.word attr.toList] := reads_plainIdentifier hattr
  have hline := ((((hspaces.append (closes_literal f.name.signs)).append hself).append_reads hattr).append_closes hcomma
    (fun rest => separated_cons_append rfl [] rest)).reads.tokens_eq
  have htext : (entryLine f attr).toList =
      "            ".toList ++ literal f.name.signs ++ ": self.".toList ++ attr.toList ++ ",".toList := by
    unfold entryLine quoted
    simp only [String.toList_append, String.toList_ofList]
  rw [htext, entered?, hline]
  rfl

theorem depth_entryLine (f : Field) (attr : String) : depth (entryLine f attr).toList = 12 := by
  have hspaces : "            ".toList = List.replicate 12 ' ' := rfl
  unfold entryLine quoted literal
  simp only [String.toList_append, String.toList_ofList, List.append_assoc, hspaces]
  exact depth_replicate 12 (by simp)

theorem statement?_tableLine (s : Schema) (h : AllParts s.tableName.toList) : statement? 4 s.tableLine.toList =
    some [.word "__tablename__".toList, .mark '=', .quoted '"' s.tableName.toList] := by
  have hassign : Closes .escaped "__tablename__ = ".toList [.word "__tablename__".toList, .mark '='] :=
    Closes.of_run rfl
  have hinside : Inside s.tableName.toList := inside_of_isPlain (fun c hc => isPlain_of_part (h c hc))
  have hline : s.tableLine.toList =
      List.replicate 4 ' ' ++ ("__tablename__ = ".toList ++ ('"' :: s.tableName.toList ++ ['"'])) := by
    have hfirst : "    __tablename__ = \"".toList = List.replicate 4 ' ' ++ ("__tablename__ = ".toList ++ ['"']) := rfl
    have hlast : "\"".toList = ['"'] := rfl
    unfold tableLine
    simp only [String.toList_append, hfirst, hlast, List.append_assoc, List.cons_append, List.nil_append]
  have hhead : "__tablename__ = ".toList.head? = some '_' := rfl
  rw [hline, statement?_replicate 4 (by rw [List.head?_append, hhead]; simp),
    (hassign.append hinside.closes).reads.tokens_eq]
  rfl

def identityDeclaration : Declaration where
  name := "id".toList
  annotation := [.word "Mapped".toList, .mark '[', .word "int".toList, .mark ']']
  value := [.word "mapped_column".toList, .mark '(', .word "Integer".toList, .mark ',', .word "Identity".toList,
    .mark '(', .word "always".toList, .mark '=', .word "True".toList, .mark ')', .mark ',', .word "primary_key".toList,
    .mark '=', .word "True".toList, .mark ')']

theorem declared?_identityLine : declared? identityLine.toList = some identityDeclaration := by
  unfold identityLine
  rw [String.toList_ofList]
  decide +kernel

def dictLines : List String := ["", "    def to_dict(self) -> dict:"]

def identityEntryLine : String := "            \"id\": self.id,"

def entryLines (s : Schema) : List String := identityEntryLine :: s.attributes.map (fun p => entryLine p.1 p.2)

theorem modelTail_eq (s : Schema) :
    s.modelTail = dictLines ++ "        return \x7b" :: (s.entryLines ++ ["        \x7d"]) := by
  unfold modelTail dictLines entryLines
  rfl

theorem depth_of_mem_entryLines {s : Schema} {l : String} (h : l ∈ s.entryLines) : depth l.toList = 12 := by
  rcases List.mem_cons.1 h with rfl | h
  · decide
  · obtain ⟨p, -, rfl⟩ := List.mem_map.1 h
    exact depth_entryLine p.1 p.2

def AreColumns (columns : List MappedColumn) : Prop :=
  ∀ c ∈ columns, c.HasValue ∧ isPlainIdentifier c.attr.toList = true

variable {s : Schema} {columns : List MappedColumn}

/-- **The declarations of the class** are the identity and the mapped attributes. -/
theorem declarations_modelBody (htable : AllParts s.tableName.toList) (hcolumns : AreColumns columns) :
    declarations ((s.modelBody columns).map String.toList) =
      identityDeclaration :: columns.map MappedColumn.declaration := by
  have hhead : declarations [s.tableLine.toList, "".toList, identityLine.toList] = [identityDeclaration] := by
    have htable : declared? s.tableLine.toList = none := by
      rw [declared?, statement?_tableLine s htable]
      rfl
    have hempty : declared? "".toList = none := rfl
    rw [declarations, List.filterMap_cons_none htable, List.filterMap_cons_none hempty,
      List.filterMap_cons_some declared?_identityLine, List.filterMap_nil]
  have hmapped := declarations_map (fun c hc => MappedColumn.declared?_line (hcolumns c hc).1 (hcolumns c hc).2)
  have htail : ∀ l ∈ s.modelTail, declared? l.toList = none := by
    have hentry : ∀ l ∈ s.entryLines, declared? l.toList = none := fun l hl =>
      declared?_eq_none (by rw [depth_of_mem_entryLines hl]; decide)
    rw [modelTail_eq]
    simp only [List.forall_mem_append, List.forall_mem_cons]
    exact ⟨by decide, by decide, hentry, by decide, by simp⟩
  have hbody : s.modelBody columns =
      [s.tableLine, "", identityLine] ++ columns.map MappedColumn.line ++ s.modelTail := rfl
  rw [hbody, List.map_append, List.map_append, declarations_append, declarations_append, declarations_eq_nil htail,
    hmapped, List.append_nil]
  exact congrArg (· ++ columns.map MappedColumn.declaration) hhead

def declaringLines (s : Schema) (columns : List MappedColumn) : List String :=
  [s.tableLine, "", identityLine] ++ columns.map MappedColumn.line ++ dictLines

theorem modelBody_eq (s : Schema) (columns : List MappedColumn) : s.modelBody columns =
    s.declaringLines columns ++ "        return \x7b" :: (s.entryLines ++ ["        \x7d"]) := by
  rw [modelBody, modelTail_eq, declaringLines]
  simp only [List.append_assoc, List.cons_append, List.nil_append]

theorem forall_mem_declaringLines {P : String → Prop} (htable : P s.tableLine) (hblank : P "")
    (hidentity : P identityLine) (hmapped : ∀ c ∈ columns, P c.line) (hdict : ∀ l ∈ dictLines, P l) :
    ∀ l ∈ s.declaringLines columns, P l := by
  have hfirst : ∀ l ∈ [s.tableLine, "", identityLine], P l :=
    List.forall_mem_cons.2 ⟨htable, List.forall_mem_cons.2 ⟨hblank, List.forall_mem_singleton.2 hidentity⟩⟩
  exact List.forall_mem_append.2 ⟨List.forall_mem_append.2 ⟨hfirst, List.forall_mem_map.2 hmapped⟩, hdict⟩

theorem forall_mem_modelBody {P : String → Prop} (hdeclaring : ∀ l ∈ s.declaringLines columns, P l)
    (hreturn : P "        return \x7b") (hentries : ∀ l ∈ s.entryLines, P l) (hend : P "        \x7d") :
    ∀ l ∈ s.modelBody columns, P l := by
  rw [modelBody_eq]
  exact List.forall_mem_append.2 ⟨hdeclaring, List.forall_mem_cons.2 ⟨hreturn,
    List.forall_mem_append.2 ⟨hentries, List.forall_mem_singleton.2 hend⟩⟩⟩

theorem depth_of_mem_declaringLines (hcolumns : AreColumns columns) :
    ∀ l ∈ s.declaringLines columns, depth l.toList ≤ 4 := by
  have htable : depth s.tableLine.toList ≤ 4 := by
    have hfirst : depth "    __tablename__ = \"".toList = 4 := by decide
    unfold tableLine
    rw [String.append_assoc, depth_append (by decide), hfirst]
  have hidentity : depth identityLine.toList ≤ 4 := by
    unfold identityLine
    rw [String.toList_ofList]
    decide
  have hmapped : ∀ c ∈ columns, depth c.line.toList ≤ 4 := fun c hc => by
    rw [MappedColumn.depth_line (hcolumns c hc).2]
  exact forall_mem_declaringLines htable (by decide) hidentity hmapped (by decide)

/-- **The entries of the keyed data** are the identity and the attributes, under the names of the fields. -/
def entryTokens (s : Schema) : List (List Char × List Token) :=
  selfEntry "id".toList "id".toList ::
    s.attributes.map (fun p => selfEntry (p.1.name.signs.flatMap literalSign) p.2.toList)

theorem entries_entryLines (hattrs : ∀ p ∈ s.attributes, isPlainIdentifier p.2.toList = true) :
    entries (s.entryLines.map String.toList) = s.entryTokens := by
  have hidentity : entered? identityEntryLine.toList = some (selfEntry "id".toList "id".toList) := by decide
  have hmapped : entries ((s.attributes.map (fun p => entryLine p.1 p.2)).map String.toList) =
      s.attributes.map (fun p => selfEntry (p.1.name.signs.flatMap literalSign) p.2.toList) :=
    entries_map (fun p hp => entered?_entryLine p.1 (hattrs p hp))
  exact (List.filterMap_cons_some hidentity).trans (congrArg (_ :: ·) hmapped)

theorem entries_modelBody (hattrs : ∀ p ∈ s.attributes, isPlainIdentifier p.2.toList = true)
    (hcolumns : AreColumns columns) (post : List (List Char)) :
    entries (between "        return \x7b" "        \x7d" ((s.modelBody columns).map String.toList ++ post)) =
      s.entryTokens := by
  have hreturn : depth "        return \x7b".toList = 8 ∧ depth "        \x7d".toList = 8 := by decide
  have hfirst : "        return \x7b" ∉ s.declaringLines columns := fun hmem => by
    have := depth_of_mem_declaringLines hcolumns _ hmem
    rw [hreturn.1] at this
    omega
  have hlast : "        \x7d" ∉ s.entryLines := fun hmem => by
    have := depth_of_mem_entryLines hmem
    rw [hreturn.2] at this
    cases this
  rw [modelBody_eq, between_map_toList hfirst hlast, entries_entryLines hattrs]

theorem assigned?_modelBody (htable : AllParts s.tableName.toList) (post : List (List Char)) :
    assigned? "__tablename__" ((s.modelBody columns).map String.toList ++ post) =
      some [.quoted '"' s.tableName.toList] := by
  have hline : (statement? 4 s.tableLine.toList).bind (valueFor? "__tablename__") =
      some [.quoted '"' s.tableName.toList] := by
    rw [statement?_tableLine s htable]
    rfl
  rw [assigned?, modelBody, List.cons_append, List.map_cons, List.cons_append, List.findSome?_cons, hline]

theorem isInner_modelBody (s : Schema) (columns : List MappedColumn) :
    ∀ l ∈ s.modelBody columns, isInner l.toList = true := by
  have htable : isInner s.tableLine.toList = true := by
    unfold tableLine
    rw [String.append_assoc]
    exact isInner_append rfl
  have hidentity : isInner identityLine.toList = true := by
    unfold identityLine
    rw [String.toList_ofList]
    rfl
  have hmapped : ∀ c ∈ columns, isInner c.line.toList = true := fun c _ => by
    rw [c.line_eq, String.append_assoc]
    exact isInner_append rfl
  have hentries : ∀ l ∈ s.entryLines, isInner l.toList = true := by
    refine List.forall_mem_cons.2 ⟨by decide, List.forall_mem_map.2 (fun p _ => ?_)⟩
    unfold entryLine
    rw [String.append_assoc, String.append_assoc, String.append_assoc]
    exact isInner_append rfl
  exact forall_mem_modelBody (forall_mem_declaringLines htable rfl hidentity hmapped (by decide)) rfl hentries rfl

theorem oneLine_modelBody (htable : AllParts s.tableName.toList) (hcolumns : AreColumns columns)
    (hattrs : ∀ p ∈ s.attributes, isPlainIdentifier p.2.toList = true) : ∀ l ∈ s.modelBody columns, OneLine l := by
  have htable : OneLine s.tableLine := by
    unfold tableLine
    exact oneLine_append.2 ⟨oneLine_append.2 ⟨by decide, oneLine_of_part htable⟩, by decide⟩
  have hidentity : OneLine identityLine := by
    unfold identityLine
    exact oneLine_ofList (by decide)
  have hmapped : ∀ c ∈ columns, OneLine c.line := fun c hc =>
    MappedColumn.oneLine_line (hcolumns c hc).1 (hcolumns c hc).2
  have hdict : ∀ l ∈ dictLines, OneLine l :=
    forall_oneLine_cons (by decide) (List.forall_mem_singleton.2 (oneLine_ofList (by decide)))
  have hentries : ∀ l ∈ s.entryLines, OneLine l := by
    refine List.forall_mem_cons.2 ⟨by decide, List.forall_mem_map.2 (fun p hp => ?_)⟩
    have hattr : OneLine p.2 := oneLine_of_part (forall_mem_of_isPlainIdentifier (hattrs p hp))
    unfold entryLine
    simp only [oneLine_append, oneLine_quoted, hattr]
    decide
  exact forall_mem_modelBody (forall_mem_declaringLines htable (by decide) hidentity hmapped hdict) (by decide) hentries
    (by decide)

def modelClass (s : Schema) (text : String) : List (List Char) := blockAfter s.modelHeader (textLines text)

theorem areColumns_of_forall₂ (hattrs : ∀ p ∈ s.attributes, isPlainIdentifier p.2.toList = true)
    (h : List.Forall₂ (fun p c => p.1.mappedColumn p.2 = .ok c) s.attributes columns) : AreColumns columns := by
  refine Sequence.forall_mem_of_forall₂ (fun p c hpc => ?_) ((List.forall₂_and_left _ _).2 ⟨hattrs, h⟩)
  rw [Field.attr_of_mappedColumn hpc.2]
  exact ⟨Field.hasValue_of_mappedColumn hpc.2, hpc.1⟩

def modelText (s : Schema) (columns : List MappedColumn) : String :=
  "\n".intercalate (s.modelPreamble ++ s.modelHeader :: s.modelBody columns) ++ "\n"

theorem model_eq (h : s.mappedColumns = .ok columns) : s.model = .ok (s.modelText columns) := by
  unfold modelText
  rw [model, modelLines, h, Except.map, Except.map, modelLines_eq]

namespace Named

theorem modelClass_modelText (h : s.Named) (hcolumns : AreColumns columns) :
    s.modelClass (s.modelText columns) = (s.modelBody columns).map String.toList ++ [[]] := by
  have hheader : OneLine s.modelHeader := by
    unfold modelHeader
    exact oneLine_append.2 ⟨oneLine_append.2 ⟨by decide, oneLine_of_part h.allParts_className⟩, by decide⟩
  have hlines : ∀ l ∈ s.modelPreamble ++ s.modelHeader :: s.modelBody columns, OneLine l :=
    List.forall_mem_append.2 ⟨s.oneLine_modelPreamble, List.forall_mem_cons.2
      ⟨hheader, oneLine_modelBody h.allParts_tableName hcolumns (fun p hp => h.isPlainIdentifier_attr hp)⟩⟩
  have hpre : s.modelHeader.toList ∉ s.modelPreamble.map String.toList := fun hmem => by
    obtain ⟨l, hl, heq⟩ := List.mem_map.1 hmem
    exact s.modelHeader_not_mem (String.toList_inj.1 heq ▸ hl)
  have hinner : ∀ l ∈ (s.modelBody columns).map String.toList ++ [[]], isInner l = true :=
    List.forall_mem_append.2 ⟨List.forall_mem_map.2 (s.isInner_modelBody columns), by decide⟩
  have hblock := blockAfter_eq hpre hinner (by simp : ∀ l ∈ ([] : List (List Char)).head?, isInner l = false)
  unfold modelText
  rw [modelClass, textLines_complete (by simp) hlines, ← hblock]
  simp

/-- **A model is read as what it was written from**: the name of the table, the declarations of the identity and the
mapped attributes, and the entries of the keyed data. -/
theorem model_read (h : s.Named) : ∃ text columns, s.model = .ok text ∧
    List.Forall₂ (fun p c => p.1.mappedColumn p.2 = .ok c) s.attributes columns ∧
    assigned? "__tablename__" (s.modelClass text) = some [.quoted '"' s.tableName.toList] ∧
    declarations (s.modelClass text) = identityDeclaration :: columns.map MappedColumn.declaration ∧
    entries (between "        return \x7b" "        \x7d" (s.modelClass text)) = s.entryTokens := by
  have hattrs : ∀ p ∈ s.attributes, isPlainIdentifier p.2.toList = true := fun p hp => h.isPlainIdentifier_attr hp
  obtain ⟨columns, hmapped⟩ := (Sequence.exists_mapM_eq_ok_iff (fun p => p.1.mappedColumn p.2) s.attributes).2
    (fun p hp => Field.exists_mappedColumn_eq_ok p.2 (h.accepted.coerced_eq_ok (mem_dataFields_of_mem_attributes hp)))
  have hall := (Sequence.mapM_eq_ok_iff _ _ _).1 hmapped
  have hcolumns := areColumns_of_forall₂ hattrs hall
  refine ⟨s.modelText columns, columns, model_eq hmapped, hall, ?_, ?_, ?_⟩
  · rw [h.modelClass_modelText hcolumns, assigned?_modelBody h.allParts_tableName]
  · rw [h.modelClass_modelText hcolumns, declarations_append, declarations_modelBody h.allParts_tableName hcolumns]
    exact List.append_nil _
  · rw [h.modelClass_modelText hcolumns, entries_modelBody hattrs hcolumns]

end Named
end Schema
end Scaffold
