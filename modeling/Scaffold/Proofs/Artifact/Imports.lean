import Scaffold.Proofs.Artifact.References
import Scaffold.Proofs.Source.Import
/-!
# Proofs.Artifact.Imports — what the modules import, and what their classes use

The imports of a model are computed from the fields, and so are the lines of its class, each in its own way.  They fit:
the names that the model imports from the database library are those that its class refers to and that are neither built
in nor imported from elsewhere (`mem_modelImports_iff`), and both modules import dates exactly if a class refers to
them.  This holds whatever the fields are called, so what is read of a declaration is the text behind its name.
-/
namespace Scaffold

open Naming Source Text

/-! ## Classes of records -/

/-- **The names that a declaration refers to behind its own name**: those of the annotation and those of the value. -/
def referred (text : String) : List (List Char) :=
  references (sides (tokens .escaped text.toList)).1 ++ references (sides (tokens .escaped text.toList)).2

def StatesExpression (text : String) : Prop :=
  ∃ w, keyword? "server_default" (callArguments (sides (tokens .escaped text.toList)).2) =
    some [.word "text".toList, .mark '(', .quoted '"' w, .mark ')']

/-- **A class of records**: its header, its first line, its attributes, each with the text behind its name, and what
follows. -/
structure RecordClass where
  header : String
  first : String
  attributes : List (String × String)
  rest : List String

namespace RecordClass

def lines (c : RecordClass) : List String :=
  c.header :: c.first :: "" :: c.attributes.map (fun a => "    " ++ a.1 ++ a.2) ++ c.rest

def names (c : RecordClass) : List (List Char) := c.attributes.flatMap (fun a => referred a.2)

end RecordClass

theorem referred_annotated {text annotation : String} {ts value : List Token}
    (hannotated : Reads .escaped annotation.toList ts) (hts : ∀ t ∈ ts, t ≠ .mark '=')
    (hvalue : Trails .escaped text.toList (initialised value)) :
    referred (": " ++ annotation ++ text) = references ts ++ references value := by
  have htokens := (trails_annotated hannotated hvalue).reads.tokens_eq
  have hhead : ∀ t ∈ Token.mark ':' :: ts, t ≠ .mark '=' := List.forall_mem_cons.2 ⟨by simp, hts⟩
  rw [referred, htokens, ← List.cons_append, sides_initialised hhead]
  rfl

namespace MappedColumn

theorem referred_declaredText {c : MappedColumn} (h : c.HasValue) :
    referred c.declaredText = c.declaration.references := by
  rw [referred, sides_declaredText h]
  rfl

theorem references_declaredText {c : MappedColumn} (h : c.HasValue) :
    references (sides (tokens .escaped c.declaredText.toList)).1 =
      ("Mapped" :: ((if c.optional then ["Optional"] else []) ++ [c.binding.name])).map String.toList := by
  rw [sides_declaredText h]
  exact c.references_mapped

theorem statesExpression_declaredText {c : MappedColumn} (h : c.HasValue) :
    StatesExpression c.declaredText ↔ ∃ w, c.default? = some (.expression w) := by
  rw [StatesExpression, arguments_declaredText h, keyword?_server_default]
  cases hd : c.default? with
  | none => simp
  | some d =>
    obtain ⟨v, rfl⟩ := h d (by simp [hd])
    cases hv : ModelDefault.ofValue v with
    | expression w => simp [ModelDefault.tokens]
    | literal w => simp [ModelDefault.tokens]

end MappedColumn

namespace RequestField

def declaredText (r : RequestField) : String := ": " ++ r.annotation ++ r.initialiser

theorem line_eq (r : RequestField) : r.line = "    " ++ r.attr ++ r.declaredText := by
  unfold line declaredText
  simp only [String.append_assoc]

theorem referred_declaredText {r : RequestField} {rule : Rule} (h : r.constraints = rule.constraints) :
    referred r.declaredText = (r.declaration rule).references :=
  referred_annotated (reads_annotated r.optional (by cases r.type <;> decide)) (annotationTokens_ne _ _)
    (trails_initialiser h)

end RequestField

namespace AnswerField

def declaredText (a : AnswerField) : String :=
  ": " ++ (if a.optional then "Optional[" ++ a.binding.name ++ "]" else a.binding.name) ++
    (match a.alias? with
    | none => ""
    | some name => " = Field(serialization_alias=" ++ quoted name ++ ")")

theorem line_eq (a : AnswerField) : a.line = "    " ++ a.attr ++ a.declaredText := by
  unfold line declaredText
  cases a.alias? <;> simp only [String.append_assoc]

theorem referred_declaredText (a : AnswerField) : referred a.declaredText = a.declaration.references :=
  referred_annotated (reads_annotated a.optional (by cases a.binding <;> decide)) (annotationTokens_ne _ _)
    a.trails_initialiser

end AnswerField

/-! ## What a field uses -/

namespace Field

def storageWords (f : Field) : List String :=
  f.type.mapping.storage.typeName :: (if f.hasExpressionDefault then ["text"] else [])

def annotationWords (f : Field) : List String :=
  "Mapped" :: ((if f.required then [] else ["Optional"]) ++ [f.type.mapping.binding.name]) ++ ["mapped_column"]

theorem modelWords_eq (f : Field) : f.modelWords = f.annotationWords ++ f.storageWords := by
  simp [modelWords, annotationWords, storageWords]

def libraryWords : List String := ["Boolean", "Date", "Integer", "String", "Text", "text", "Identity"]

theorem storageWords_subset (f : Field) : f.storageWords ⊆ libraryWords := by
  unfold storageWords
  cases f.type <;> cases f.hasExpressionDefault <;> decide

theorem date_mem_mapped (f : Field) (optional : Bool) :
    "date" ∈ "Mapped" :: ((if optional then ["Optional"] else []) ++ [f.type.mapping.binding.name]) ↔
    f.type = .date := by
  cases optional <;> cases f.type <;> decide

theorem date_mem_requestWords (f : Field) (allOptional : Bool) (attr : String) :
    "date" ∈ f.requestWords allOptional attr ↔ f.type = .date := by
  have hfront : ∀ b : Bool, "date" ∉ (if b then ["Optional"] else []) := by decide
  have hback : ∀ b : Bool, "date" ∉ (if b then [] else ["Field"]) := by decide
  have htype : "date" = f.type.mapping.rule.requestType.name ↔ f.type = .date := by cases f.type <;> decide
  unfold requestWords
  rw [List.mem_append, List.mem_append, or_iff_left (hback _), or_iff_right (hfront _), List.mem_singleton, htype]

theorem references_answerField (f : Field) (attr : String) : (f.answerField attr).declaration.references =
    ((if f.required then [] else ["Optional"]) ++ [f.type.mapping.binding.name] ++
      (if (f.alias? attr).isNone then [] else ["Field"])).map String.toList := by
  have hbinding : isName f.type.mapping.binding.name.toList = true := by cases f.type <;> decide
  have hvalue : references (f.answerField attr).valueTokens =
      (if (f.alias? attr).isNone then [] else ["Field"]).map String.toList := by
    unfold AnswerField.valueTokens answerField
    cases f.alias? attr with
    | none => rfl
    | some name =>
      simp only []
      rw [references_call (by decide), List.flatMap_singleton, aliasTokens, references_keyword]
      rfl
  have hannotation := references_annotationTokens (!f.required) hbinding
  have hoptional : (if !f.required then ["Optional"] else []) = if f.required then [] else ["Optional"] := by
    cases f.required <;> rfl
  rw [hoptional] at hannotation
  exact (congrArg₂ (· ++ ·) hannotation hvalue).trans List.map_append.symm

end Field

namespace Schema

/-! ## The imports of a model -/

def builtins : List (List Char) := ["int", "str", "bool"].map String.toList

def modelImportLines (s : Schema) : List String :=
  (if s.usesDate then ["from datetime import date"] else []) ++
  ["from typing import Optional",
   "",
   "from sqlalchemy import " ++ ", ".intercalate s.modelImports,
   "from sqlalchemy.orm import DeclarativeBase, Mapped, mapped_column",
   "",
   ""]

theorem modelPreamble_eq (s : Schema) :
    s.modelPreamble = s.modelImportLines ++ "class Base(DeclarativeBase):" :: ["    pass", "", ""] := by
  unfold modelPreamble modelImportLines
  simp only [List.append_assoc, List.cons_append, List.nil_append]

theorem nodup_eraseDups {α : Type} [DecidableEq α] : ∀ l : List α, l.eraseDups.Nodup
  | [] => List.nodup_nil
  | a :: l => by
    rw [List.eraseDups_cons, List.nodup_cons, List.mem_eraseDups]
    exact ⟨by simp, nodup_eraseDups _⟩
termination_by l => l.length
decreasing_by exact Nat.lt_succ_of_le (List.length_filter_le _ _)

theorem nodup_modelImports (s : Schema) : s.modelImports.Nodup :=
  (List.mergeSort_perm _ _).nodup_iff.2 (nodup_eraseDups _)

theorem mem_modelImports {s : Schema} {w : String} :
    w ∈ s.modelImports ↔ w ∈ ["Integer", "Identity"] ∨ ∃ f ∈ s.dataFields, w ∈ f.storageWords := by
  have hexpression : w ∈ (if s.dataFields.any Field.hasExpressionDefault then ["text"] else []) ↔
      ∃ f ∈ s.dataFields, w ∈ (if f.hasExpressionDefault then ["text"] else []) := by
    simp only [List.mem_ite_nil_right, List.any_eq_true]
    exact ⟨fun ⟨⟨f, hf, hd⟩, hw⟩ => ⟨f, hf, hd, hw⟩, fun ⟨f, hf, hd, hw⟩ => ⟨⟨f, hf, hd⟩, hw⟩⟩
  have hstorage : w ∈ s.dataFields.map (fun f => f.type.mapping.storage.typeName) ↔
      ∃ f ∈ s.dataFields, w = f.type.mapping.storage.typeName := by
    simp only [List.mem_map, eq_comm]
  have hidentity : w ∈ ["Identity", "Integer"] ↔ w ∈ ["Integer", "Identity"] := List.Perm.mem_iff (.swap _ _ _)
  rw [modelImports, List.mem_mergeSort, modelNames, List.mem_eraseDups, List.mem_append, List.mem_append, hexpression,
    hstorage, hidentity, or_assoc, ← exists_or]
  simp only [Field.storageWords, List.mem_cons, ← and_or_left]

theorem modelImports_subset (s : Schema) : s.modelImports ⊆ Field.libraryWords := fun w hw => by
  rcases mem_modelImports.1 hw with hw | ⟨f, -, hw⟩
  · exact (by decide : ["Integer", "Identity"] ⊆ Field.libraryWords) hw
  · exact f.storageWords_subset hw

theorem usesDate_iff {s : Schema} : s.usesDate = true ↔ ∃ f ∈ s.dataFields, f.type = .date := by
  simp only [usesDate, List.any_eq_true, decide_eq_true_eq]

/-- The names that the class of a model may refer to without the database library: what is imported from elsewhere, and
what is built in. -/
def otherWords (s : Schema) : List String :=
  ["DeclarativeBase", "Mapped", "mapped_column"] ++ ["Optional"] ++ (if s.usesDate then ["date"] else []) ++
    ["int", "str", "bool"]

theorem annotationWords_subset {s : Schema} {f : Field} (hf : f ∈ s.dataFields) : f.annotationWords ⊆ s.otherWords := by
  by_cases hdate : f.type = .date
  · have huses : s.usesDate = true := usesDate_iff.2 ⟨f, hf, hdate⟩
    unfold Field.annotationWords otherWords
    rw [huses, hdate]
    cases f.required <;> decide
  · unfold Field.annotationWords otherWords
    cases hf : f.type <;> cases f.required <;> cases s.usesDate <;> first | exact absurd hf hdate | decide

/-- **The names of the database library are imported as they are used.** -/
theorem mem_modelImports_iff {s : Schema} {w : String} : w ∈ s.modelImports ↔
    w ∈ ["Mapped", "int", "mapped_column", "Integer", "Identity"] ++ s.dataFields.flatMap Field.modelWords ∧
      w ∉ s.otherWords := by
  rw [List.mem_append, List.mem_flatMap]
  constructor
  · intro hw
    have hother : ∀ b : Bool, ∀ w ∈ Field.libraryWords, w ∉ ["DeclarativeBase", "Mapped", "mapped_column"] ++
        ["Optional"] ++ (if b then ["date"] else []) ++ ["int", "str", "bool"] := by decide
    refine ⟨?_, hother _ w (s.modelImports_subset hw)⟩
    rcases mem_modelImports.1 hw with hw | ⟨f, hf, hw⟩
    · exact .inl (List.mem_append_right ["Mapped", "int", "mapped_column"] hw)
    · exact .inr ⟨f, hf, by rw [f.modelWords_eq]; exact List.mem_append_right _ hw⟩
  · rintro ⟨hw | ⟨f, hf, hw⟩, hother⟩
    · have hfixed : ["Mapped", "int", "mapped_column"] ⊆ s.otherWords := by
        unfold otherWords
        cases s.usesDate <;> decide
      rcases List.mem_append.1 (show w ∈ ["Mapped", "int", "mapped_column"] ++ ["Integer", "Identity"] from hw) with
        hw | hw
      · exact absurd (hfixed hw) hother
      · exact mem_modelImports.2 (.inl hw)
    · rw [f.modelWords_eq] at hw
      rcases List.mem_append.1 hw with hw | hw
      · exact absurd (annotationWords_subset hf hw) hother
      · exact mem_modelImports.2 (.inr ⟨f, hf, hw⟩)

/-! ## Reading the imports of a model -/

theorem importBlock_modelText (s : Schema) (columns : List MappedColumn) :
    importBlock (s.modelText columns) = s.modelImportLines.map String.toList := by
  have hone : ∀ l ∈ s.modelImportLines, OneLine l := fun l hl =>
    s.oneLine_modelPreamble l (by rw [modelPreamble_eq]; exact List.mem_append_left _ hl)
  have hnext : OneLine "class Base(DeclarativeBase):" := oneLine_ofList (by decide)
  have himports : ∀ l ∈ s.modelImportLines, isImport l.toList = true := by
    have hempty : isImport "".toList = true := rfl
    have hlibrary : isImport ("from sqlalchemy import " ++ ", ".intercalate s.modelImports).toList = true := by
      have hfront : ['f', 'r', 'o', 'm', ' '] <+: "from sqlalchemy import ".toList := by decide
      rw [String.toList_append]
      exact isImport_of_prefix (hfront.trans (List.prefix_append _ _))
    unfold modelImportLines
    refine List.forall_mem_append.2 ⟨?_, ?_⟩
    · split
      · exact List.forall_mem_singleton.2 (isImport_ofList (by decide))
      · exact List.forall_mem_nil _
    · simp only [List.forall_mem_cons, List.not_mem_nil, false_implies, implies_true, hlibrary, hempty, true_and,
        and_true]
      exact ⟨isImport_ofList (by decide), isImport_ofList (by decide)⟩
  unfold modelText
  rw [modelPreamble_eq, List.append_assoc, List.cons_append]
  exact importBlock_eq hone hnext himports (by decide) _

theorem importedNames_modelText (s : Schema) (columns : List MappedColumn) (source : String) :
    importedNames source (s.modelText columns) =
      (if s.usesDate then importedFrom source "from datetime import date".toList else []) ++
        (importedFrom source "from typing import Optional".toList ++
        ((if [.word "sqlalchemy".toList] = tokens .escaped source.toList
          then s.modelImports.map String.toList else []) ++
        importedFrom source "from sqlalchemy.orm import DeclarativeBase, Mapped, mapped_column".toList)) := by
  have hnames : ∀ w ∈ s.modelImports, isPlainIdentifier w.toList = true := fun w hw =>
    (by decide : ∀ w ∈ Field.libraryWords, isPlainIdentifier w.toList = true) w (s.modelImports_subset hw)
  have hlibrary : importedFrom source ("from sqlalchemy import " ++ ", ".intercalate s.modelImports).toList =
      if [.word "sqlalchemy".toList] = tokens .escaped source.toList then s.modelImports.map String.toList else [] :=
    importedFrom_eq (Reads.of_whole rfl : Reads .escaped "sqlalchemy".toList [.word "sqlalchemy".toList]) (by decide)
      hnames source
  have hempty : importedFrom source "".toList = [] := rfl
  have hdate : (if s.usesDate then ["from datetime import date"] else []).flatMap
      (fun l => importedFrom source l.toList) =
      if s.usesDate then importedFrom source "from datetime import date".toList else [] := by
    cases s.usesDate
    · rfl
    · exact List.flatMap_singleton _ _
  rw [importedNames, importBlock_modelText, modelImportLines, List.flatMap_map, List.flatMap_append, hdate]
  simp only [List.flatMap_cons, List.flatMap_nil, hlibrary, hempty, List.nil_append, List.append_nil]

theorem importedNames_model (s : Schema) (columns : List MappedColumn) :
    importedNames "sqlalchemy" (s.modelText columns) = s.modelImports.map String.toList ∧
    importedNames "sqlalchemy.orm" (s.modelText columns) =
      ["DeclarativeBase", "Mapped", "mapped_column"].map String.toList ∧
    importedNames "typing" (s.modelText columns) = ["Optional"].map String.toList ∧
    importedNames "datetime" (s.modelText columns) = (if s.usesDate then ["date"] else []).map String.toList := by
  have hread : ∀ {source : String} {date optional orm : List (List Char)},
      importedFrom source "from datetime import date".toList = date →
      importedFrom source "from typing import Optional".toList = optional →
      importedFrom source "from sqlalchemy.orm import DeclarativeBase, Mapped, mapped_column".toList = orm →
        importedNames source (s.modelText columns) = (if s.usesDate then date else []) ++ (optional ++
          ((if [.word "sqlalchemy".toList] = tokens .escaped source.toList
            then s.modelImports.map String.toList else []) ++ orm)) := fun hdate hoptional horm => by
    rw [importedNames_modelText, hdate, hoptional, horm]
  have hnothing : (if s.usesDate then ([] : List (List Char)) else []) = [] := ite_self _
  refine ⟨?_, ?_, ?_, ?_⟩
  · rw [hread (by decide : _ = []) (by decide : _ = []) (by decide : _ = []), hnothing, if_pos (by decide)]
    exact List.append_nil _
  · rw [hread (by decide : _ = []) (by decide : _ = [])
      (by decide : _ = ["DeclarativeBase", "Mapped", "mapped_column"].map String.toList), hnothing, if_neg (by decide)]
    rfl
  · rw [hread (by decide : _ = []) (by decide : _ = ["Optional"].map String.toList) (by decide : _ = []), hnothing,
      if_neg (by decide)]
    rfl
  · have hlibrary : (if [.word "sqlalchemy".toList] = tokens .escaped "datetime".toList then
        s.modelImports.map String.toList else []) = [] := if_neg (by decide)
    rw [hread (by decide : _ = ["date"].map String.toList) (by decide : _ = []) (by decide : _ = []), hlibrary]
    cases s.usesDate <;> rfl

theorem date_mem_importBlock_modelText (s : Schema) (columns : List MappedColumn) :
    "from datetime import date".toList ∈ importBlock (s.modelText columns) ↔ s.usesDate = true := by
  have hlibrary : "from datetime import date" ≠ "from sqlalchemy import " ++ ", ".intercalate s.modelImports := by
    intro heq
    have hprefix : "from sqlalchemy import ".toList <+: "from datetime import date".toList := by
      rw [heq, String.toList_append]
      exact List.prefix_append _ _
    revert hprefix
    decide
  rw [importBlock_modelText, toList_mem_map_iff, modelImportLines]
  cases s.usesDate <;> simp [hlibrary]

/-! ## The class of a model -/

def identityText : String := ": Mapped[int] = mapped_column(Integer, Identity(always=True), primary_key=True)"

def modelRecord (s : Schema) (columns : List MappedColumn) : RecordClass where
  header := s.modelHeader
  first := s.tableLine
  attributes := (identityName, identityText) :: columns.map (fun c => (c.attr, c.declaredText))
  rest := s.modelTail

theorem modelText_eq (s : Schema) (columns : List MappedColumn) :
    s.modelText columns = "\n".intercalate (s.modelPreamble ++ (s.modelRecord columns).lines) ++ "\n" := by
  have hcolumns : columns.map MappedColumn.line = columns.map (fun c => "    " ++ c.attr ++ c.declaredText) :=
    List.map_congr_left (fun c _ => c.line_eq)
  have hidentity : identityLine = "    " ++ identityName ++ identityText := rfl
  unfold modelText modelBody modelRecord RecordClass.lines
  rw [hcolumns, hidentity, List.map_cons, List.map_map]
  rfl

/-- **The names that the class of a model refers to.** -/
theorem names_modelRecord {s : Schema} {columns : List MappedColumn} (h : s.mappedColumns = .ok columns) :
    (s.modelRecord columns).names = (["Mapped", "int", "mapped_column", "Integer", "Identity"] ++
      s.dataFields.flatMap Field.modelWords).map String.toList := by
  have hall := (Sequence.mapM_eq_ok_iff _ _ _).1 h
  have hvalues : ∀ c ∈ columns, c.HasValue :=
    Sequence.forall_mem_of_forall₂ (fun _ _ hpc => Field.hasValue_of_mappedColumn hpc) hall
  have hidentity : referred identityText =
      ["Mapped", "int", "mapped_column", "Integer", "Identity"].map String.toList := by
    unfold referred identityText
    rw [String.toList_ofList]
    decide +kernel
  have hcolumns : columns.flatMap (fun c => referred c.declaredText) =
      (s.dataFields.flatMap Field.modelWords).map String.toList := by
    rw [List.flatMap_congr (fun c hc => MappedColumn.referred_declaredText (hvalues c hc)), ← List.flatMap_map,
      Field.flatMap_references hall, ← s.map_fst_attributes, List.flatMap_map]
  rw [RecordClass.names, modelRecord, List.flatMap_cons, List.flatMap_map, hidentity, hcolumns, List.map_append]

/-! ## The classes of a service -/

def requestRecord (s : Schema) (suffix : String) (allOptional : Bool) : RecordClass where
  header := s.serviceHeader suffix
  first := "    model_config = ConfigDict(populate_by_name=True)"
  attributes := (s.requestFields allOptional).map (fun r => (r.attr, r.declaredText))
  rest := ["", ""]

def answerRecord (s : Schema) : RecordClass where
  header := s.serviceHeader "Out"
  first := "    model_config = ConfigDict(from_attributes=True)"
  attributes := (identityName, ": int") :: s.answerFields.map (fun a => (a.attr, a.declaredText))
  rest := ["", ""]

def serviceRecords (s : Schema) : List RecordClass :=
  (if s.operations.create then [s.requestRecord "Create" false] else []) ++
    (if s.operations.update then [s.requestRecord "Update" true] else []) ++ [s.answerRecord]

theorem lines_serviceRecords (s : Schema) :
    s.serviceClasses.flatMap Block.lines = s.serviceRecords.flatMap RecordClass.lines := by
  have hrequest : ∀ suffix allOptional,
      (s.requestClass suffix allOptional).lines = (s.requestRecord suffix allOptional).lines := by
    intro suffix allOptional
    have hfields : (s.requestFields allOptional).map RequestField.line =
        (s.requestFields allOptional).map (fun r => "    " ++ r.attr ++ r.declaredText) :=
      List.map_congr_left (fun r _ => r.line_eq)
    unfold Block.lines requestClass RecordClass.lines requestRecord
    rw [hfields, List.map_map]
    rfl
  have hanswer : s.answerClass.lines = s.answerRecord.lines := by
    have hfields : s.answerFields.map AnswerField.line =
        s.answerFields.map (fun a => "    " ++ a.attr ++ a.declaredText) := List.map_congr_left (fun a _ => a.line_eq)
    unfold Block.lines answerClass RecordClass.lines answerRecord
    rw [hfields, List.map_cons, List.map_map]
    rfl
  unfold serviceClasses serviceRecords
  simp only [List.flatMap_append, List.flatMap_singleton, hanswer]
  cases s.operations.create <;> cases s.operations.update <;> simp [hrequest]

theorem exists_date_iff {s : Schema} : (∃ p ∈ s.attributes, p.1.type = .date) ↔ s.usesDate = true := by
  rw [usesDate_iff, ← s.map_fst_attributes]
  simp only [List.mem_map, exists_exists_and_eq_and]

theorem date_mem_requestRecord (s : Schema) (suffix : String) (allOptional : Bool) :
    "date".toList ∈ (s.requestRecord suffix allOptional).names ↔ s.usesDate = true := by
  have hreferred : ∀ p : Field × String, "date".toList ∈ referred (p.1.requestField allOptional p.2).declaredText ↔
      p.1.type = .date := fun p => by
    rw [RequestField.referred_declaredText rfl, Field.references_requestField,
      toList_mem_map_iff, Field.date_mem_requestWords]
  rw [RecordClass.names, requestRecord, requestFields, List.map_map, List.flatMap_map, List.mem_flatMap,
    ← exists_date_iff]
  exact exists_congr (fun p => and_congr_right (fun _ => hreferred p))

theorem date_mem_answerRecord (s : Schema) : "date".toList ∈ s.answerRecord.names ↔ s.usesDate = true := by
  have hidentity : "date".toList ∉ referred ": int" := by decide
  have hback : ∀ b : Bool, "date" ∉ (if b then [] else ["Field"]) := by decide
  have hfront : ∀ b : Bool, "date" ∉ (if b then [] else ["Optional"]) := by decide
  have hreferred : ∀ p : Field × String, "date".toList ∈ referred (p.1.answerField p.2).declaredText ↔
      p.1.type = .date := fun p => by
    have hbinding : "date" = p.1.type.mapping.binding.name ↔ p.1.type = .date := by cases p.1.type <;> decide
    rw [AnswerField.referred_declaredText, Field.references_answerField,
      toList_mem_map_iff, List.mem_append, List.mem_append, or_iff_left (hback _),
      or_iff_right (hfront _), List.mem_singleton, hbinding]
  rw [RecordClass.names, answerRecord, answerFields, List.map_map, List.flatMap_cons, List.flatMap_map, List.mem_append,
    or_iff_right hidentity, List.mem_flatMap, ← exists_date_iff]
  exact exists_congr (fun p => and_congr_right (fun _ => hreferred p))

/-- **A class of the service refers to dates exactly if a field is one**: each request does, and so does the answer. -/
theorem exists_date_mem_names_iff (s : Schema) :
    (∃ c ∈ s.serviceRecords, "date".toList ∈ c.names) ↔ s.usesDate = true := by
  refine ⟨?_, fun huses => ⟨s.answerRecord, List.mem_append_right _ (List.mem_singleton_self _),
    s.date_mem_answerRecord.2 huses⟩⟩
  rintro ⟨c, hc, hdate⟩
  have hrequest : ∀ suffix allOptional, c = s.requestRecord suffix allOptional → s.usesDate = true := by
    rintro suffix allOptional rfl
    exact (s.date_mem_requestRecord suffix allOptional).1 hdate
  rcases List.mem_append.1 hc with hc | hc
  · rcases List.mem_append.1 hc with hc | hc
    · exact hrequest _ _ (List.mem_singleton.1 (List.mem_ite_nil_right.1 hc).2)
    · exact hrequest _ _ (List.mem_singleton.1 (List.mem_ite_nil_right.1 hc).2)
  · obtain rfl := List.mem_singleton.1 hc
    exact s.date_mem_answerRecord.1 hdate

/-! ## The imports of a service -/

def serviceImportLines (s : Schema) : List String :=
  ["import os"] ++
  (if s.usesDate then ["from datetime import date"] else []) ++
  ["from typing import List, Optional",
   "",
   "from fastapi import Depends, FastAPI, HTTPException, Query",
   "from pydantic import BaseModel, ConfigDict, EmailStr, Field",
   "from sqlalchemy import create_engine, select",
   "from sqlalchemy.orm import Session, sessionmaker",
   "",
   "import models",
   ""]

def engineLine : String := "engine = create_engine(os.environ.get(\"DATABASE_URL\", \"sqlite:///./app.db\"))"

theorem date_mem_importBlock_service (s : Schema) :
    "from datetime import date".toList ∈ importBlock s.service ↔ s.usesDate = true := by
  have hhead : ∃ rest, s.serviceLines = s.serviceImportLines ++ engineLine :: rest := by
    rw [serviceLines_eq]
    unfold serviceHead serviceImportLines
    simp only [List.append_assoc, List.cons_append, List.nil_append]
    exact ⟨_, rfl⟩
  obtain ⟨rest, hlines⟩ := hhead
  have hone : ∀ l ∈ s.serviceImportLines, OneLine l := by
    unfold serviceImportLines
    refine List.forall_mem_append.2 ⟨List.forall_mem_append.2 ⟨?_, ?_⟩, ?_⟩
    · exact List.forall_mem_singleton.2 (oneLine_ofList (by decide))
    · split
      · exact List.forall_mem_singleton.2 (oneLine_ofList (by decide))
      · exact List.forall_mem_nil _
    · simp only [List.forall_mem_cons, List.not_mem_nil, false_implies, implies_true, and_true]
      and_intros <;> exact oneLine_ofList (by decide)
  have himports : ∀ l ∈ s.serviceImportLines, isImport l.toList = true := by
    unfold serviceImportLines
    refine List.forall_mem_append.2 ⟨List.forall_mem_append.2 ⟨?_, ?_⟩, ?_⟩
    · decide
    · split
      · exact List.forall_mem_singleton.2 (isImport_ofList (by decide))
      · exact List.forall_mem_nil _
    · simp only [List.forall_mem_cons, List.not_mem_nil, false_implies, implies_true, and_true]
      and_intros <;> first | exact isImport_ofList (by decide) | decide
  rw [service, hlines, importBlock_eq hone (by decide) himports (by decide),
    toList_mem_map_iff, serviceImportLines]
  cases s.usesDate <;> decide

/-! ## Imports and use -/

/-- What holds of a field exactly if it holds of its mapped attribute, holds of some field exactly if of some
attribute. -/
theorem exists_column_iff {s : Schema} {columns : List MappedColumn} (h : s.mappedColumns = .ok columns)
    {P : Field → Prop} {Q : MappedColumn → Prop}
    (hiff : ∀ {f : Field} {attr : String} {c : MappedColumn}, f.mappedColumn attr = .ok c → (P f ↔ Q c)) :
    (∃ f ∈ s.dataFields, P f) ↔ ∃ c ∈ columns, Q c := by
  have hall : ∀ {l : List (Field × String)} {columns : List MappedColumn},
      List.Forall₂ (fun p c => p.1.mappedColumn p.2 = .ok c) l columns →
        ((∃ f ∈ l.map Prod.fst, P f) ↔ ∃ c ∈ columns, Q c) := by
    intro l columns hcolumns
    induction hcolumns with
    | nil => simp
    | cons hc _ ih => simp only [List.map_cons, List.mem_cons, exists_eq_or_imp, hiff hc, ih]
  rw [← s.map_fst_attributes]
  exact hall ((Sequence.mapM_eq_ok_iff _ _ _).1 h)

theorem text_mem_modelImports {s : Schema} :
    "text" ∈ s.modelImports ↔ ∃ f ∈ s.dataFields, f.hasExpressionDefault = true := by
  have hstorage : ∀ f : Field, "text" ∈ f.storageWords ↔ f.hasExpressionDefault = true := fun f => by
    unfold Field.storageWords
    cases f.type <;> cases f.hasExpressionDefault <;> decide
  have hfixed : "text" ∉ ["Integer", "Identity"] := by decide
  rw [mem_modelImports, or_iff_right hfixed]
  simp only [hstorage]

section
variable {s : Schema} {columns : List MappedColumn} (h : s.mappedColumns = .ok columns)
include h

theorem mem_importedNames_iff (w : List Char) : w ∈ importedNames "sqlalchemy" (s.modelText columns) ↔
    w ∈ (s.modelRecord columns).names ∧ w ∉ importedNames "sqlalchemy.orm" (s.modelText columns) ∧
      w ∉ importedNames "typing" (s.modelText columns) ∧ w ∉ importedNames "datetime" (s.modelText columns) ∧
        w ∉ builtins := by
  obtain ⟨hlibrary, horm, htyping, hdatetime⟩ := s.importedNames_model columns
  obtain ⟨v, rfl⟩ : ∃ v : String, v.toList = w := ⟨String.ofList w, String.toList_ofList⟩
  rw [hlibrary, horm, htyping, hdatetime, names_modelRecord h, builtins]
  simp only [toList_mem_map_iff, mem_modelImports_iff, otherWords, List.mem_append, not_or, and_assoc]

theorem text_mem_importedNames_iff : "text".toList ∈ importedNames "sqlalchemy" (s.modelText columns) ↔
    ∃ c ∈ columns, StatesExpression c.declaredText := by
  have hfield : ∀ {f : Field} {attr : String} {c : MappedColumn}, f.mappedColumn attr = .ok c →
      (f.hasExpressionDefault = true ↔ StatesExpression c.declaredText) := by
    intro f attr c hc
    rw [MappedColumn.statesExpression_declaredText (Field.hasValue_of_mappedColumn hc)]
    obtain ⟨value, hvalue, rfl⟩ := Sequence.map_eq_ok_iff.1 hc
    exact Field.hasExpressionDefault_iff hvalue
  rw [(s.importedNames_model columns).1, toList_mem_map_iff, text_mem_modelImports]
  exact exists_column_iff h hfield

theorem date_mem_importBlock_iff : "from datetime import date".toList ∈ importBlock (s.modelText columns) ↔
    ∃ c ∈ columns, "date".toList ∈ references (sides (tokens .escaped c.declaredText.toList)).1 := by
  have hfield : ∀ {f : Field} {attr : String} {c : MappedColumn}, f.mappedColumn attr = .ok c →
      (f.type = .date ↔ "date".toList ∈ references (sides (tokens .escaped c.declaredText.toList)).1) := by
    intro f attr c hc
    rw [MappedColumn.references_declaredText (Field.hasValue_of_mappedColumn hc),
      toList_mem_map_iff]
    obtain ⟨value, -, rfl⟩ := Sequence.map_eq_ok_iff.1 hc
    exact (f.date_mem_mapped _).symm
  rw [date_mem_importBlock_modelText, usesDate_iff]
  exact exists_column_iff h hfield

end

/-- **The imports match the use.**  The names that a model imports from the database library are pairwise distinct, and
they are those that its class refers to and that are neither imported from elsewhere nor built in; the wrapper of
expressions is one of them exactly if a mapped attribute has such a default.  The model imports dates exactly if the
annotation of a mapped attribute uses them, and the service exactly if an attribute of one of its classes does.  Nothing
is asked of the names of the fields. -/
theorem imports_match_use {s : Schema} {text : String} (h : s.model = .ok text) :
    ∃ columns rest, s.mappedColumns = .ok columns ∧
      text = "\n".intercalate (s.modelPreamble ++ (s.modelRecord columns).lines) ++ "\n" ∧
      s.service = "\n".intercalate (s.serviceHead ++ s.serviceRecords.flatMap RecordClass.lines ++ rest) ++ "\n" ∧
      (importedNames "sqlalchemy" text).Nodup ∧
      (∀ w, w ∈ importedNames "sqlalchemy" text ↔ w ∈ (s.modelRecord columns).names ∧
        w ∉ importedNames "sqlalchemy.orm" text ∧ w ∉ importedNames "typing" text ∧
          w ∉ importedNames "datetime" text ∧ w ∉ builtins) ∧
      ("text".toList ∈ importedNames "sqlalchemy" text ↔ ∃ c ∈ columns, StatesExpression c.declaredText) ∧
      ("from datetime import date".toList ∈ importBlock text ↔
        ∃ c ∈ columns, "date".toList ∈ references (sides (tokens .escaped c.declaredText.toList)).1) ∧
      ("from datetime import date".toList ∈ importBlock s.service ↔
        ∃ c ∈ s.serviceRecords, "date".toList ∈ c.names) := by
  obtain ⟨columns, hcolumns, rfl⟩ : ∃ columns, s.mappedColumns = .ok columns ∧ s.modelText columns = text := by
    obtain ⟨lines, hlines, -⟩ := Sequence.map_eq_ok_iff.1 h
    obtain ⟨columns, hcolumns, -⟩ := Sequence.map_eq_ok_iff.1 hlines
    exact ⟨columns, hcolumns, Except.ok.inj ((model_eq hcolumns).symm.trans h)⟩
  obtain ⟨rest, hservice⟩ : ∃ rest, s.serviceLines =
      s.serviceHead ++ s.serviceRecords.flatMap RecordClass.lines ++ rest := by
    rw [serviceLines_eq, lines_serviceRecords]
    exact ⟨_, List.append_assoc _ _ _⟩
  refine ⟨columns, rest, hcolumns, s.modelText_eq columns, by rw [service, hservice], ?_,
    mem_importedNames_iff hcolumns, text_mem_importedNames_iff hcolumns, date_mem_importBlock_iff hcolumns,
    s.date_mem_importBlock_service.trans s.exists_date_mem_names_iff.symm⟩
  rw [(s.importedNames_model columns).1]
  exact s.nodup_modelImports.map (fun _ _ => String.toList_inj.1)

def shipments : Schema :=
  { entityName := "Shipment",
    fields := [{ id := "1", name := "count", type := .number, default? := some ("3" : Wording) },
      { id := "2", name := "due", type := .date }] }

/-- **Shipments import what they use**: an attribute has an expression as its default, and classes of both modules refer
to dates. -/
theorem shipments_use_dates : ∃ text columns, shipments.model = .ok text ∧ shipments.mappedColumns = .ok columns ∧
    "text".toList ∈ importedNames "sqlalchemy" text ∧ (∃ c ∈ columns, StatesExpression c.declaredText) ∧
    (∃ c ∈ columns, "date".toList ∈ references (sides (tokens .escaped c.declaredText.toList)).1) ∧
    ∃ c ∈ shipments.serviceRecords, "date".toList ∈ c.names := by
  have haccepted : shipments.Accepted := (errors_eq_nil_iff defaultThreshold shipments).1 (by decide +kernel)
  obtain ⟨text, hmodel⟩ := haccepted.exists_model_eq_ok
  obtain ⟨columns, rest, hcolumns, htext, -, -, -, hexpression, hdate, hservice⟩ := imports_match_use hmodel
  obtain rfl := htext.trans (shipments.modelText_eq columns).symm
  have himported : "text".toList ∈ importedNames "sqlalchemy" (shipments.modelText columns) := by
    rw [(shipments.importedNames_model columns).1]
    exact List.mem_map_of_mem (text_mem_modelImports.2 ⟨_, List.mem_cons_self, by decide⟩)
  exact ⟨_, columns, hmodel, hcolumns, himported, hexpression.1 himported,
    hdate.1 ((shipments.date_mem_importBlock_modelText columns).2 (by decide)),
    hservice.1 (shipments.date_mem_importBlock_service.2 (by decide))⟩

end Schema

end Scaffold
