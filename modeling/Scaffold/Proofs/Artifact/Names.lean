import Scaffold.Artifact.Model
import Scaffold.Artifact.Service
import Scaffold.Proofs.Naming.Attribute
import Scaffold.Proofs.Naming.Words
import Scaffold.Proofs.Schema.Gate
import Scaffold.Proofs.Source.Literal
/-!
# Proofs.Artifact.Names — the names of a schema whose names are identifiers

In such a schema (`Named`) the names of class, table and path are made of letters, digits and underscores.  The data
fields have distinct names and distinct attributes, all of them identifiers and none of them the identity
(`nodup_names`, `nodup_attributes`).  In a schema that is only accepted the names may have line feeds besides.
-/
namespace Scaffold

open Naming Text

namespace Wording

theorem points_ofText (text : String) : (ofText text).signs.map Sign.point = text.toList.map Char.toNat := by
  simp [ofText, Function.comp_def, Sign.point]

theorem ofText_in_identifiers (text : String) (h : isPlainIdentifier text.toList = true) :
    (ofText text).In identifiers :=
  ⟨text.toList, mem_identifiers.2 h, by rw [String.ofList_toList]⟩

end Wording

namespace Schema

/-- **A schema that passes for compilation and whose names are identifiers.** -/
structure Named (s : Schema) : Prop where
  accepted : s.Accepted
  names : ∀ w ∈ s.names, w.In identifiers

def shownNames (s : Schema) : List (List Char) := s.dataFields.map (fun f => f.name.shown.toList)

theorem attributes_eq (s : Schema) :
    s.attributes = s.dataFields.map (fun f => (f, String.ofList (attributeOf s.shownNames f.name.shown.toList))) := rfl

theorem map_fst_attributes (s : Schema) : s.attributes.map Prod.fst = s.dataFields := by
  rw [attributes_eq, List.map_map]
  exact List.map_id' _

/-! ## Names of any accepted schema

They may have a line feed at the end, which is kept in what is derived from them. -/

namespace Accepted

variable {s : Schema}

theorem allNameChars_entityName (h : s.Accepted) : AllNameChars s.entityName.shown.toList :=
  allNameChars_of_isIdentifier h.entity

theorem allNameChars_className (h : s.Accepted) : AllNameChars s.className.toList := by
  rw [className, String.toList_ofList]
  exact part_or_newline_of_mem_pascal h.entity

theorem allNameChars_tableName (h : s.Accepted) : AllNameChars s.tableName.toList := by
  rw [tableName, String.toList_ofList]
  exact allNameChars_table h.allNameChars_entityName

theorem allNameChars_rowName (h : s.Accepted) : AllNameChars s.rowName.toList := by
  rw [rowName, String.toList_ofList]
  exact allNameChars_snake h.allNameChars_entityName

theorem mem_pathSegment (h : s.Accepted) :
    ∀ c ∈ s.pathSegment.toList, (isIdentifierPart c = true ∨ c = '\n') ∨ c = '-' := by
  have htable := allNameChars_table h.allNameChars_entityName
  rw [pathSegment, String.toList_ofList]
  exact forall_mem_path (P := fun c => (isIdentifierPart c = true ∨ c = '\n') ∨ c = '-') (.inr rfl)
    (fun c hc => .inl (htable c hc))

theorem mem_collectionPath (h : s.Accepted) : ∀ c ∈ s.collectionPath.toList,
    c = '/' ∨ (isIdentifierPart c = true ∨ c = '\n') ∨ c = '-' := by
  rw [collectionPath, String.toList_append, String.toList_ofList]
  exact List.forall_mem_append.2 ⟨List.forall_mem_singleton.2 (.inl rfl), fun c hc => .inr (h.mem_pathSegment c hc)⟩

/-- **The attribute of each data field fits its name**, and no two fields have the same. -/
theorem attributeOf_name (h : s.Accepted) :
    (∀ f ∈ s.dataFields, Fits s.shownNames f.name.shown.toList (attributeOf s.shownNames f.name.shown.toList)) ∧
      (s.dataFields.map (fun f => attributeOf s.shownNames f.name.shown.toList)).Nodup := by
  have hnodup : s.shownNames.Nodup := by
    have := h.nodup_shown.map (f := String.toList) (fun _ _ heq => String.toList_inj.1 heq)
    rwa [List.map_map] at this
  obtain ⟨hfits, hinj⟩ := attributeOf_fits hnodup
  refine ⟨fun f hf => hfits _ (List.mem_map_of_mem hf), ?_⟩
  have := hnodup.map_on hinj
  rwa [shownNames, List.map_map] at this

theorem allNameChars_attr (h : s.Accepted) {p : Field × String} (hp : p ∈ s.attributes) : AllNameChars p.2.toList := by
  rw [attributes_eq] at hp
  obtain ⟨f, hf, rfl⟩ := List.mem_map.1 hp
  rw [String.toList_ofList]
  exact (h.attributeOf_name.1 f hf).forall_mem (.inl (by decide)) (.inl (by decide))
    (allNameChars_of_isIdentifier (h.isIdentifier_name hf))

theorem signs_name (h : s.Accepted) {f : Field} (hf : f ∈ s.dataFields) :
    f.name.signs = f.name.shown.toList.map Sign.char ∧ AllNameChars f.name.shown.toList := by
  refine ⟨?_, allNameChars_of_isIdentifier (h.isIdentifier_name hf)⟩
  conv => lhs; rw [← h.ofText_shown hf]
  rfl

end Accepted

/-! ## Names made from an identifier -/

section Entity

variable {s : Schema} (h : s.entityName.In identifiers)
include h

theorem allParts_entityName_of_in : AllParts s.entityName.shown.toList :=
  forall_mem_of_isPlainIdentifier (Wording.isPlainIdentifier_of_in h)

theorem allParts_className_of_in : AllParts s.className.toList := by
  rw [className, String.toList_ofList]
  exact allParts_pascal (allParts_entityName_of_in h)

theorem allParts_tableName_of_in : AllParts s.tableName.toList := by
  rw [tableName, String.toList_ofList]
  exact allParts_table (allParts_entityName_of_in h)

theorem allParts_rowName_of_in : AllParts s.rowName.toList := by
  rw [rowName, String.toList_ofList]
  exact allParts_snake (allParts_entityName_of_in h)

theorem part_or_hyphen_of_mem_pathSegment : ∀ c ∈ s.pathSegment.toList, isIdentifierPart c = true ∨ c = '-' := by
  rw [pathSegment, String.toList_ofList]
  exact fun c hc => part_or_hyphen_of_mem_path (allParts_entityName_of_in h) hc

end Entity

namespace Named

variable {s : Schema}

theorem of_errors {threshold : Int} (h : (s.validate threshold).errors = [])
    (hnames : ∀ w ∈ s.names, w.In identifiers) : s.Named := ⟨(errors_eq_nil_iff threshold s).1 h, hnames⟩

theorem entityName_in (h : s.Named) : s.entityName.In identifiers := h.names _ List.mem_cons_self

theorem isPlainIdentifier_name (h : s.Named) {f : Field} (hf : f ∈ s.dataFields) :
    isPlainIdentifier f.name.shown.toList = true :=
  Wording.isPlainIdentifier_of_in
    (h.names _ (List.mem_cons_of_mem _ (List.mem_map_of_mem (mem_fields_of_mem_dataFields hf))))

theorem allParts_className (h : s.Named) : AllParts s.className.toList := allParts_className_of_in h.entityName_in

theorem allParts_tableName (h : s.Named) : AllParts s.tableName.toList := allParts_tableName_of_in h.entityName_in

theorem allParts_rowName (h : s.Named) : AllParts s.rowName.toList := allParts_rowName_of_in h.entityName_in

/-! ## Names and attributes of the data fields -/

theorem isPlainIdentifier_attr (h : s.Named) {p : Field × String} (hp : p ∈ s.attributes) :
    isPlainIdentifier p.2.toList = true := by
  rw [attributes_eq] at hp
  obtain ⟨f, hf, rfl⟩ := List.mem_map.1 hp
  rw [String.toList_ofList]
  exact (h.accepted.attributeOf_name.1 f hf).isPlainIdentifier (h.isPlainIdentifier_name hf)

theorem ofText_eq_name_iff (h : s.Named) {f : Field} (hf : f ∈ s.dataFields) (attr : String) :
    (attr : Wording) = f.name ↔ attr = f.name.shown := by
  constructor
  · intro heq
    rw [← heq, Wording.shown_ofText]
  · intro heq
    rw [heq, h.accepted.ofText_shown hf]

theorem points_name (h : s.Named) {f : Field} (hf : f ∈ s.dataFields) :
    f.name.signs.map Sign.point = f.name.shown.toList.map Char.toNat := by
  conv => lhs; rw [← h.accepted.ofText_shown hf, Wording.points_ofText]

theorem decode_name (h : s.Named) {f : Field} (hf : f ∈ s.dataFields) (d : Source.Dialect) :
    Source.decode d (f.name.signs.flatMap literalSign) = some (f.name.shown.toList.map Char.toNat) := by
  have hsmall : ∀ n ∈ f.name.shown.toList.map Char.toNat, n < 0x10000 := List.forall_mem_map.2 (fun c hc => by
    have := toNat_lt_of_part (forall_mem_of_isPlainIdentifier (h.isPlainIdentifier_name hf) c hc)
    omega)
  rw [Source.decode_literal, h.points_name hf, (unitsOf_eq_self_iff _).2 hsmall]

end Named

def orders : Schema :=
  { entityName := "Order",
    fields := [{ id := "1", name := "class" },
      { id := "2", name := "count", type := .number, required := true, default? := some ("3" : Wording),
        indexed := true }] }

theorem orders_accepted : (orders.validate defaultThreshold).errors = [] := by decide +kernel

theorem orders_names : ∀ w ∈ orders.names, w.In identifiers := by
  have hword : ∀ l : List Char, isPlainIdentifier l = true → (Wording.ofText (String.ofList l)).In identifiers :=
    fun l hl => ⟨l, mem_identifiers.2 hl, rfl⟩
  intro w hw
  simp only [names, orders, List.map_cons, List.map_nil, List.mem_cons, List.not_mem_nil, or_false] at hw
  rcases hw with rfl | rfl | rfl
  · exact hword "Order".toList (by decide)
  · exact hword "class".toList (by decide)
  · exact hword "count".toList (by decide)

end Schema
end Scaffold
