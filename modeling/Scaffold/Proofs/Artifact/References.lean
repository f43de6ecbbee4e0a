import Scaffold.Proofs.Artifact.ModelText
import Scaffold.Proofs.Artifact.ServiceText
import Scaffold.Proofs.Source.Reference
/-!
# Proofs.Artifact.References — the names that the classes refer to, and the attributes that hide them

In the body of a class an attribute hides the name that it is called by from the lines behind it.  The class of the
model and those of the requests refer to types and functions by names that depend on the fields and the operations
(`Schema.usedWords`).  No attribute is one of them exactly if no data field is called so
(`attributes_hide_nothing_iff`).
-/
namespace Scaffold

open Naming Source Text

theorem MappedColumn.references_mapped (c : MappedColumn) : references c.declaration.annotation =
    ("Mapped" :: ((if c.optional then ["Optional"] else []) ++ [c.binding.name])).map String.toList := by
  have hbinding : isName c.binding.name.toList = true := by cases c.binding <;> decide
  rw [declaration, references_name (by decide) (by simp), references_mark, references_append (by simp),
    references_annotationTokens c.optional hbinding]
  exact congrArg ("Mapped".toList :: ·) (List.append_nil _)

namespace Field

def modelWords (f : Field) : List String :=
  "Mapped" :: ((if f.required then [] else ["Optional"]) ++ [f.type.mapping.binding.name]) ++
    "mapped_column" :: (f.type.mapping.storage.typeName :: (if f.hasExpressionDefault then ["text"] else []))

def requestWords (f : Field) (allOptional : Bool) (attr : String) : List String :=
  (if allOptional || !f.required then ["Optional"] else []) ++ [f.type.mapping.rule.requestType.name] ++
    (if f.type.mapping.rule.constraints.isEmpty && (f.alias? attr).isNone then [] else ["Field"])

/-- **A default that is no text is an expression**, and only such a default is. -/
theorem hasExpressionDefault_iff {f : Field} {value : Option DefaultValue} (h : f.coerced = .ok value) :
    f.hasExpressionDefault = true ↔ ∃ w, value.map ModelDefault.ofValue = some (.expression w) := by
  unfold hasExpressionDefault
  rcases coerced_eq_ok_iff.1 h with ⟨hdefault, rfl⟩ | ⟨d, v, hdefault, hv, rfl⟩
  · simp [hdefault]
  · by_cases htype : f.type.IsTextual
    · obtain ⟨w, rfl, -⟩ := Default.text_of_coerce htype hv
      refine iff_of_false (fun htrue => ?_) (by simp [ModelDefault.ofValue])
      cases hf : f.type <;> simp_all [FieldType.IsTextual]
    · refine iff_of_true ?_ ?_
      · cases hf : f.type <;> simp_all [FieldType.IsTextual]
      · cases v with
        | text w => exact absurd rfl (Default.ne_text_of_coerce htype hv w)
        | number n => exact ⟨_, rfl⟩
        | flag b => exact ⟨_, rfl⟩

theorem references_default {f : Field} {value : Option DefaultValue} (h : f.coerced = .ok value) :
    ((value.map ModelDefault.ofValue).map
      (fun d => .word "server_default".toList :: .mark '=' :: d.tokens)).toList.flatMap references =
      (if f.hasExpressionDefault then ["text"] else []).map String.toList := by
  have hexpression : ∀ w : Wording, references (ModelDefault.tokens (.expression w)) = ["text".toList] := fun w => by
    rw [ModelDefault.tokens, references_name (by decide) (by simp)]
    rfl
  have hiff := hasExpressionDefault_iff h
  cases hvalue : value.map ModelDefault.ofValue with
  | none =>
    have hnot : f.hasExpressionDefault = false := by simpa [hvalue] using hiff
    rw [hnot]
    rfl
  | some d =>
    rw [Option.map_some, Option.toList_some, List.flatMap_cons, references_keyword, List.flatMap_nil, List.append_nil]
    cases d with
    | expression w =>
      rw [hiff.2 ⟨w, hvalue⟩, hexpression]
      rfl
    | literal w =>
      have hnot : f.hasExpressionDefault = false := by simpa [hvalue] using hiff
      rw [hnot]
      rfl

theorem references_mappedColumn {f : Field} {attr : String} {c : MappedColumn} (h : f.mappedColumn attr = .ok c) :
    c.declaration.references = f.modelWords.map String.toList := by
  obtain ⟨value, hvalue, rfl⟩ := Sequence.map_eq_ok_iff.1 h
  have hstorage : references f.type.mapping.storage.tokens = [f.type.mapping.storage.typeName.toList] := by
    cases f.type <;> decide
  have hnullable : ∀ b : Bool,
      references [.word "nullable".toList, .mark '=', .word (if b then "True" else "False").toList] =
      [] := by decide
  have hindex : ∀ b : Bool, (if b then [[.word "index".toList, .mark '=', .word "True".toList]] else []).flatMap
      references = [] := by decide
  have hcolumn : ∀ column : Option Wording,
    (column.map (fun w => [.quoted '"' (w.signs.flatMap literalSign)])).toList.flatMap
      references = [] := fun column => by cases column <;> rfl
  have hoptional : (if !f.required then ["Optional"] else []) = if f.required then [] else ["Optional"] := by
    cases f.required <;> rfl
  rw [Declaration.references, MappedColumn.references_mapped, MappedColumn.declaration, MappedColumn.callTokens,
    references_call (by decide), MappedColumn.argumentTokens]
  simp only [List.flatMap_append, hcolumn, List.flatMap_cons, List.flatMap_nil, hstorage, hnullable, hindex,
    references_default hvalue, List.append_nil, List.nil_append, hoptional, modelWords, List.map_append, List.map_cons]
  rfl

theorem flatMap_references {l : List (Field × String)} {columns : List MappedColumn}
    (h : List.Forall₂ (fun p c => p.1.mappedColumn p.2 = .ok c) l columns) :
    (columns.map MappedColumn.declaration).flatMap Declaration.references =
      (l.flatMap (fun p => p.1.modelWords)).map String.toList := by
  induction h with
  | nil => rfl
  | cons hc _ ih =>
    rw [List.map_cons, List.flatMap_cons, List.flatMap_cons, List.map_append, references_mappedColumn hc, ih]

theorem references_requestField (f : Field) (allOptional : Bool) (attr : String) :
    ((f.requestField allOptional attr).declaration f.type.mapping.rule).references =
      (f.requestWords allOptional attr).map String.toList := by
  have htype : isName f.type.mapping.rule.requestType.name.toList = true := by cases f.type <;> decide
  have hvalue : references ((f.requestField allOptional attr).valueTokens f.type.mapping.rule) =
      (if f.type.mapping.rule.constraints.isEmpty && (f.alias? attr).isNone
        then [] else ["Field"]).map String.toList := by
    unfold RequestField.valueTokens
    have halias : (f.requestField allOptional attr).alias? = f.alias? attr := rfl
    rw [halias]
    split
    · have hnone : ∀ b : Bool, references (if b then [.word "None".toList] else []) = [] := by decide
      exact hnone _
    · have hdefault : ∀ b : Bool, (if b then [[.word "default".toList, .mark '=', .word "None".toList]] else []).flatMap
          references = [] := by decide
      have hconstraint : f.type.mapping.rule.constraintTokens.flatMap references = [] := by cases f.type <;> decide
      have hkey : ∀ name : Option Wording, (name.map (aliasTokens "alias")).toList.flatMap references = [] := by
        intro name
        cases name with
        | none => rfl
        | some name =>
          rw [Option.map_some, Option.toList_some, List.flatMap_cons, aliasTokens, references_keyword]
          rfl
      rw [references_call (by decide), RequestField.argumentTokens, List.flatMap_append, List.flatMap_append, hdefault,
        hconstraint, hkey]
      rfl
  have hannotation := references_annotationTokens (allOptional || !f.required) htype
  exact (congrArg₂ (· ++ ·) hannotation hvalue).trans List.map_append.symm

end Field

namespace Schema

/-- **The names that the classes refer to**: that of the model for the identity and for each data field, and those of
the requests of each operation that is enabled. -/
def usedWords (s : Schema) : List String :=
  ["Mapped", "int", "mapped_column", "Integer", "Identity"] ++ s.dataFields.flatMap Field.modelWords ++
    (if s.operations.create then s.attributes.flatMap (fun p => p.1.requestWords false p.2) else []) ++
    (if s.operations.update then s.attributes.flatMap (fun p => p.1.requestWords true p.2) else [])

def referredNames (s : Schema) (model : String) : List (List Char) :=
  (declarations (s.modelClass model)).flatMap Declaration.references ++
    (if s.operations.create then (declarations (s.serviceClass "Create")).flatMap Declaration.references else []) ++
    (if s.operations.update then (declarations (s.serviceClass "Update")).flatMap Declaration.references else [])

def vocabulary : List String :=
  ["Mapped", "mapped_column", "Identity", "Optional", "String", "Integer", "Boolean", "Date", "Text", "text", "Field",
   "str", "int", "bool", "date", "EmailStr"]

theorem usedWords_subset (s : Schema) : s.usedWords ⊆ vocabulary := by
  have hmodel : ∀ f : Field, f.modelWords ⊆ vocabulary := fun f => by
    unfold Field.modelWords
    cases f.type <;> cases f.required <;> cases f.hasExpressionDefault <;> decide
  have hrequest : ∀ (f : Field) (allOptional : Bool) (attr : String), f.requestWords allOptional attr ⊆ vocabulary :=
    fun f allOptional attr => by
      unfold Field.requestWords
      refine List.append_subset.2 ⟨List.append_subset.2 ⟨?_, ?_⟩, ?_⟩
      · split <;> decide
      · cases f.type <;> decide
      · split <;> decide
  have hall : ∀ {α : Type} {l : List α} {words : α → List String}, (∀ a ∈ l, words a ⊆ vocabulary) →
      l.flatMap words ⊆ vocabulary := fun hwords w hw => by
    obtain ⟨a, ha, hw⟩ := List.mem_flatMap.1 hw
    exact hwords a ha hw
  have hrequests : ∀ (b allOptional : Bool),
      (if b then s.attributes.flatMap (fun p => p.1.requestWords allOptional p.2) else []) ⊆ vocabulary := by
    intro b allOptional
    split
    · exact hall (fun p _ => hrequest p.1 allOptional p.2)
    · exact List.nil_subset _
  unfold usedWords
  exact List.append_subset.2 ⟨List.append_subset.2 ⟨List.append_subset.2
    ⟨by decide, hall (fun f _ => hmodel f)⟩, hrequests _ _⟩, hrequests _ _⟩

namespace Named

variable {s : Schema}

theorem referredNames_eq (h : s.Named) : ∃ model, s.model = .ok model ∧
    (declarations (s.modelClass model)).map Declaration.name =
      (identityName :: s.attributes.map Prod.snd).map String.toList ∧
    s.referredNames model = s.usedWords.map String.toList := by
  obtain ⟨model, columns, hmodel, hcolumns, -, hdeclared, -⟩ := h.model_read
  have hidentity : identityDeclaration.references =
      (["Mapped", "int", "mapped_column", "Integer", "Identity"]).map String.toList := by decide
  have hmapped : (columns.map MappedColumn.declaration).flatMap Declaration.references =
      (s.dataFields.flatMap Field.modelWords).map String.toList := by
    rw [Field.flatMap_references hcolumns, ← s.map_fst_attributes, List.flatMap_map]
  have hrequest : ∀ (suffix : String) (allOptional b : Bool),
      (b = true → s.requestClass suffix allOptional ∈ s.serviceClasses) →
      (if b then (declarations (s.serviceClass suffix)).flatMap Declaration.references else []) =
        (if b then s.attributes.flatMap (fun p => p.1.requestWords allOptional p.2) else []).map String.toList := by
    intro suffix allOptional b hb
    split
    · rename_i hon
      rw [h.declarations_request (hb hon), requestDeclarations, List.flatMap_map, List.map_flatMap]
      exact List.flatMap_congr (fun p _ => p.1.references_requestField allOptional p.2)
    · rfl
  refine ⟨model, hmodel, ?_, ?_⟩
  · rw [hdeclared, ← MappedColumn.map_attr hcolumns, List.map_cons, List.map_cons, List.map_map, List.map_map]
    rfl
  · rw [referredNames, usedWords, hdeclared, List.flatMap_cons, hidentity, hmapped,
      hrequest "Create" false _ (fun hcreate => by simp [serviceClasses, hcreate]),
      hrequest "Update" true _ (fun hupdate => by simp [serviceClasses, hupdate])]
    simp only [List.map_append]

/-- **An attribute is referred to exactly if its field is called like a name that is**: an attribute that is not the
name of its field is unlike them. -/
theorem attribute_mem_usedWords_iff (h : s.Named) {p : Field × String} (hp : p ∈ s.attributes) :
    p.2 ∈ s.usedWords ↔ p.1.name.shown ∈ s.usedWords := by
  rw [attributes_eq] at hp
  obtain ⟨f, hf, rfl⟩ := List.mem_map.1 hp
  have hfits := h.accepted.attributeOf_name.1 f hf
  by_cases hkept : attributeOf s.shownNames f.name.shown.toList = f.name.shown.toList
  · rw [hkept, String.ofList_toList]
  -- such an attribute is none of the names, and its field would have kept one of them
  · have hunlike : ∀ w ∈ vocabulary, attributeName w.toList = w.toList ∧ w.toList.getLast? ≠ some '_' ∧
        ¬ ['f', '_'] <+: w.toList := by decide +kernel
    refine iff_of_false (fun hmem => ?_) (fun hmem => hkept (hfits.kept (hunlike _ (s.usedWords_subset hmem)).1))
    obtain ⟨-, hlast, hfront⟩ := hunlike _ (s.usedWords_subset hmem)
    rw [String.toList_ofList] at hlast hfront
    rcases hfits.renamed hkept with ⟨l, hl⟩ | ⟨l, hl⟩
    · exact hlast (by rw [hl, List.getLast?_concat])
    · exact hfront ⟨l, by rw [hl]; rfl⟩

end Named

/-- **No attribute hides a name that the classes refer to, exactly if no data field is called like one.**  The
attributes are those of the model, and the names are those that its class and the classes of the requests refer to. -/
theorem attributes_hide_nothing_iff {threshold : Int} {s : Schema} (h : (s.validate threshold).errors = [])
    (hnames : ∀ w ∈ s.names, w.In identifiers) : ∃ model, s.model = .ok model ∧
      (declarations (s.modelClass model)).map Declaration.name =
        (identityName :: s.attributes.map Prod.snd).map String.toList ∧
      s.referredNames model = s.usedWords.map String.toList ∧
      ((∀ attr ∈ s.attributes.map Prod.snd, attr.toList ∉ s.referredNames model) ↔
        ∀ f ∈ s.dataFields, f.name.shown ∉ s.usedWords) := by
  have hnamed := Named.of_errors h hnames
  obtain ⟨model, hmodel, hattributes, hreferred⟩ := hnamed.referredNames_eq
  refine ⟨model, hmodel, hattributes, hreferred, ?_⟩
  have hmem : ∀ attr : String, attr.toList ∈ s.referredNames model ↔ attr ∈ s.usedWords := fun attr => by
    rw [hreferred, toList_mem_map_iff]
  rw [← s.map_fst_attributes, List.forall_mem_map, List.forall_mem_map]
  exact forall₂_congr (fun p hp => not_congr ((hmem p.2).trans (hnamed.attribute_mem_usedWords_iff hp)))

/-- **The attributes of orders hide nothing**, though the texts refer to nine names. -/
theorem orders_hide_nothing : ∃ model, orders.model = .ok model ∧
    "mapped_column".toList ∈ orders.referredNames model ∧ "text".toList ∈ orders.referredNames model ∧
    "Field".toList ∈ orders.referredNames model ∧
    ∀ attr ∈ orders.attributes.map Prod.snd, attr.toList ∉ orders.referredNames model := by
  obtain ⟨model, hmodel, -, hreferred, hiff⟩ := attributes_hide_nothing_iff orders_accepted orders_names
  have hwords : "mapped_column" ∈ orders.usedWords ∧ "text" ∈ orders.usedWords ∧ "Field" ∈ orders.usedWords := by
    decide +kernel
  refine ⟨model, hmodel, ?_, ?_, ?_, hiff.2 (by decide +kernel)⟩
  all_goals rw [hreferred]
  · exact List.mem_map_of_mem hwords.1
  · exact List.mem_map_of_mem hwords.2.1
  · exact List.mem_map_of_mem hwords.2.2

def events : Schema := { entityName := "Event", fields := [{ id := "1", name := "date", type := .date }] }

/-- **The date of events hides its own type**: the attribute is `date`, and the classes refer to the type by that
name. -/
theorem date_hides_type : (events.validate defaultThreshold).errors = [] ∧ (∀ w ∈ events.names, w.In identifiers) ∧
    ∃ model, events.model = .ok model ∧ "date" ∈ events.attributes.map Prod.snd ∧
      "date".toList ∈ events.referredNames model := by
  have haccepted : (events.validate defaultThreshold).errors = [] := by decide +kernel
  have hnames : ∀ w ∈ events.names, w.In identifiers :=
    List.forall_mem_cons.2 ⟨Wording.ofText_in_identifiers "Event" (by decide),
      List.forall_mem_singleton.2 (Wording.ofText_in_identifiers "date" (by decide))⟩
  obtain ⟨model, hmodel, -, hreferred⟩ := (Named.of_errors haccepted hnames).referredNames_eq
  refine ⟨haccepted, hnames, model, hmodel, by decide +kernel, ?_⟩
  rw [hreferred]
  exact List.mem_map_of_mem (by decide +kernel)

end Schema

end Scaffold
