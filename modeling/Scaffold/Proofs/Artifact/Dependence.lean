import Scaffold.Artifact.Bundle
import Scaffold.Proofs.Artifact.Compilation
/-!
# Proofs.Artifact.Dependence — what the artifacts depend on

Script, model and service see of the fields only what is left of the data fields without ids and labels
(`script_withFields`, `model_withFields`, `service_withFields`); the component sees the labels too, and nothing sees the
ids.  So two schemas that differ in ids alone have the same report and the same artifacts, two that differ in labels
alone the same tables and the same service, and so have two that differ in the field that names the identity, wherever
it stands and whatever it says (`artifacts_depend_only`).
-/
namespace Scaffold

namespace Field

def withoutId (f : Field) : Field := { f with id := "" }

def withoutLabel (f : Field) : Field := { f with label := "" }

def bare (f : Field) : Field := f.withoutId.withoutLabel

end Field

namespace Schema

def withFields (s : Schema) (l : List Field) : Schema := { s with fields := l }

def withoutIds (s : Schema) : Schema := s.withFields (s.fields.map Field.withoutId)

def withoutLabels (s : Schema) : Schema := s.withFields (s.fields.map Field.withoutLabel)

def withoutIdentity (s : Schema) : Schema := s.withFields (s.fields.filter (fun f => !f.namesIdentity))

theorem dataFields_map (g : Field → Field) (hg : ∀ f, (g f).namesIdentity = f.namesIdentity) (s : Schema) :
    (s.withFields (s.fields.map g)).dataFields = s.dataFields.map g := by
  rw [dataFields, dataFields, withFields, List.eraseP_map]
  exact congrArg (List.map g) (congrArg (List.eraseP · s.fields) (funext hg))

/-! ## What script, model and service see -/

/-- What sees two lists in the same way as their images is the same of both if the images are. -/
theorem eq_of_map_eq {α β : Type} {g : α → α} {l m : List α} (h : l.map g = m.map g) (F : List α → β)
    (hF : ∀ l, F (l.map g) = F l) : F l = F m := by
  rw [← hF l, h, hF m]

/-- **Schemas with the same script, the same model and the same service.** -/
structure SameTexts (s t : Schema) : Prop where
  script : s.script = t.script
  model : s.model = t.model
  service : s.service = t.service

namespace SameTexts

theorem symm {s t : Schema} (h : SameTexts s t) : SameTexts t s := ⟨h.script.symm, h.model.symm, h.service.symm⟩

theorem trans {s t u : Schema} (h : SameTexts s t) (h' : SameTexts t u) : SameTexts s u :=
  ⟨h.script.trans h'.script, h.model.trans h'.model, h.service.trans h'.service⟩

end SameTexts

section Data

variable {s : Schema} {l : List Field} (h : (s.withFields l).dataFields.map Field.bare = s.dataFields.map Field.bare)
include h

theorem attributes_withFields : (s.withFields l).attributes.map (fun p => (p.1.bare, p.2)) =
    s.attributes.map (fun p => (p.1.bare, p.2)) := by
  rw [attributes, attributes, List.map_map, List.map_map]
  -- an attribute is chosen with a view to all names, so the list is taken as a whole
  exact eq_of_map_eq h (fun l =>
    let chosen := Naming.attributeNames (l.map (fun f => f.name.shown.toList))
    l.map (fun f => (f.bare, String.ofList ((chosen.get? f.name.shown.toList).getD f.name.shown.toList)))) (fun l => by
      simp only [List.map_map]
      rfl)

theorem table_withFields : (s.withFields l).table = s.table := by
  have hcolumns : (s.withFields l).dataFields.mapM Field.column = s.dataFields.mapM Field.column :=
    eq_of_map_eq h (List.mapM Field.column) (fun _ => List.mapM_map ..)
  have hindexes := eq_of_map_eq h
    (fun l => (l.filter Field.indexed).map (fun f => Index.mk (Table.indexName s.tableName f) f.name.shown))
    (fun l => by
      simp only [List.filter_map, List.map_map]
      rfl)
  have hname : (s.withFields l).tableName = s.tableName := rfl
  rw [table, table, hcolumns]
  simp only [hname, hindexes]

theorem script_withFields : (s.withFields l).script = s.script := by
  rw [script, script, table_withFields h]
  rfl

theorem modelImports_withFields : (s.withFields l).modelImports = s.modelImports := by
  have hnames : (s.withFields l).modelNames = s.modelNames :=
    eq_of_map_eq h (fun l => (["Identity", "Integer"] ++ l.map (fun f => f.type.mapping.storage.typeName) ++
      (if l.any Field.hasExpressionDefault then ["text"] else [])).eraseDups) (fun l => by
        simp only [List.map_map, List.any_map]
        rfl)
  rw [modelImports, modelImports, hnames]

theorem any_type_withFields (type : FieldType) :
    (s.withFields l).dataFields.any (fun f => f.type = type) = s.dataFields.any (fun f => f.type = type) :=
  eq_of_map_eq h (List.any · (fun f => f.type = type)) (fun _ => List.any_map)

theorem modelHead_withFields : (s.withFields l).modelHead = s.modelHead := by
  rw [modelHead, modelHead, modelImports_withFields h, usesDate, usesDate, any_type_withFields h]
  rfl

theorem model_withFields : (s.withFields l).model = s.model := by
  have hattributes := attributes_withFields h
  have hcolumns : (s.withFields l).mappedColumns = s.mappedColumns :=
    eq_of_map_eq hattributes (List.mapM (fun p => p.1.mappedColumn p.2)) (fun _ => List.mapM_map ..)
  have hentries : (s.withFields l).attributes.map (fun p => entryLine p.1 p.2) =
      s.attributes.map (fun p => entryLine p.1 p.2) :=
    eq_of_map_eq hattributes (List.map (fun p => entryLine p.1 p.2)) (fun _ => List.map_map ..)
  rw [model, model, modelLines, modelLines, hcolumns, modelHead_withFields h, modelTail, modelTail, hentries]

theorem requestFields_withFields (allOptional : Bool) :
    (s.withFields l).requestFields allOptional = s.requestFields allOptional :=
  eq_of_map_eq (attributes_withFields h) (List.map (fun p => p.1.requestField allOptional p.2))
    (fun _ => List.map_map ..)

theorem answerFields_withFields : (s.withFields l).answerFields = s.answerFields :=
  eq_of_map_eq (attributes_withFields h) (List.map (fun p => p.1.answerField p.2)) (fun _ => List.map_map ..)

theorem serviceHead_withFields : (s.withFields l).serviceHead = s.serviceHead := by
  rw [serviceHead, serviceHead, any_type_withFields h]
  rfl

theorem service_withFields : (s.withFields l).service = s.service := by
  have hrequest : (s.withFields l).requestBlock = s.requestBlock := by
    funext op
    cases op <;> simp only [requestBlock, requestModel, requestFields_withFields h] <;> rfl
  have hanswer : (s.withFields l).answerBlock = s.answerBlock := by
    rw [answerBlock, answerBlock, answerFields_withFields h]
    rfl
  rw [service, service, serviceLines, serviceLines, serviceHead_withFields h, hrequest, hanswer]
  rfl

theorem sameTexts_withFields : SameTexts (s.withFields l) s :=
  ⟨script_withFields h, model_withFields h, service_withFields h⟩

end Data

theorem sameTexts_map (g : Field → Field) (hg : ∀ f, (g f).bare = f.bare) (s : Schema) :
    SameTexts (s.withFields (s.fields.map g)) s := by
  have hname : ∀ f, (g f).namesIdentity = f.namesIdentity := fun f =>
    show (g f).bare.namesIdentity = f.bare.namesIdentity by rw [hg]
  refine sameTexts_withFields ?_
  rw [dataFields_map g hname, List.map_map]
  exact List.map_congr_left (fun f _ => hg f)

/-! ## What the report and the component see -/

section Ids

variable (s : Schema)

theorem validate_withoutIds (threshold : Int) : s.withoutIds.validate threshold = s.validate threshold := by
  simp only [validate, entityNameErrors, noFieldErrors, duplicateNameErrors, fieldNameErrors, defaultErrors,
    relationWarnings, requiredTextWarnings, paginationWarnings, operationWarnings, identityTypeWarnings, withoutIds,
    withFields, List.map_map, List.filter_map, List.filterMap_map, List.isEmpty_map, List.length_map]
  rfl

theorem component_withoutIds : s.withoutIds.component = s.component := by
  have hdata : s.withoutIds.dataFields = s.dataFields.map Field.withoutId :=
    dataFields_map Field.withoutId (fun _ => rfl) s
  have hentries : s.withoutIds.formEntries = s.formEntries := by
    rw [formEntries, formEntries, hdata, List.mapM_map]
    rfl
  have hlisting : s.withoutIds.fields.map Field.listingLine = s.fields.map Field.listingLine := List.map_map ..
  have hnumeric : s.withoutIds.numericNames = s.numericNames := by
    rw [numericNames, numericNames, hdata, List.filter_map, List.map_map]
    rfl
  have hwidgets : s.withoutIds.dataFields.flatMap Field.widgetLines = s.dataFields.flatMap Field.widgetLines := by
    rw [hdata, List.flatMap_map]
    rfl
  have hlines : s.withoutIds.componentLines = s.componentLines := by
    funext entries
    rw [componentLines, componentLines, hlisting, hnumeric, hwidgets]
    rfl
  rw [component, component, hentries, hlines]

theorem sameTexts_withoutIds : SameTexts s.withoutIds s := sameTexts_map Field.withoutId (fun _ => rfl) s

theorem compile_withoutIds : s.withoutIds.compile = s.compile := by
  have htexts := s.sameTexts_withoutIds
  rw [compile, compile, artifacts, artifacts, htexts.script, htexts.model, htexts.service, component_withoutIds]
  rfl

theorem run_withoutIds (threshold : Int) : s.withoutIds.run threshold = s.run threshold := by
  rw [run, run, validate_withoutIds, compile_withoutIds]

end Ids

/-! ## The identity -/

/-- **The field that names the identity leaves nothing behind**: columns, indexes and attributes come from other fields,
and what is imported is the same as if it were not there. -/
structure IdentityUnseen (s : Schema) : Prop where
  columns : ∀ t, s.table = .ok t → ∀ c ∈ t.columns, c = Table.identityColumn ∨
    ∃ f ∈ s.fields, f.namesIdentity = false ∧ f.column = .ok c
  indexes : ∀ t, s.table = .ok t → ∀ i ∈ t.indexes,
    ∃ f ∈ s.fields, f.namesIdentity = false ∧ i = Table.indexOf s.tableName f
  mapped : ∀ l, s.mappedColumns = .ok l → ∀ c ∈ l,
    ∃ f ∈ s.fields, f.namesIdentity = false ∧ ∃ attr, f.mappedColumn attr = .ok c
  requests : ∀ allOptional, ∀ r ∈ s.requestFields allOptional,
    ∃ f ∈ s.fields, f.namesIdentity = false ∧ ∃ attr, r = f.requestField allOptional attr
  answers : ∀ a ∈ s.answerFields, ∃ f ∈ s.fields, f.namesIdentity = false ∧ ∃ attr, a = f.answerField attr
  modelImports : s.modelHead = s.withoutIdentity.modelHead
  serviceImports : s.serviceHead = s.withoutIdentity.serviceHead
  texts : SameTexts s s.withoutIdentity

section Identity

variable {s : Schema} (h : s.fields.countP Field.namesIdentity ≤ 1)
include h

theorem dataFields_withoutIdentity : s.withoutIdentity.dataFields = s.dataFields := by
  have hnone : s.withoutIdentity.fields.countP Field.namesIdentity ≤ 1 :=
    (List.filter_sublist.countP_le).trans h
  rw [dataFields, dataFields, eraseP_namesIdentity h, eraseP_namesIdentity hnone, withoutIdentity, withFields,
    List.filter_filter]
  simp only [Bool.and_self]

theorem mem_dataFields_iff {f : Field} : f ∈ s.dataFields ↔ f ∈ s.fields ∧ f.namesIdentity = false := by
  rw [dataFields, eraseP_namesIdentity h, List.mem_filter]
  simp

theorem sameTexts_withoutIdentity : SameTexts s.withoutIdentity s :=
  sameTexts_withFields (congrArg (List.map Field.bare) (dataFields_withoutIdentity h))

theorem identityUnseen : s.IdentityUnseen := by
  have hdata : (s.withoutIdentity.dataFields).map Field.bare = s.dataFields.map Field.bare :=
    congrArg (List.map Field.bare) (dataFields_withoutIdentity h)
  have hfield : ∀ f ∈ s.dataFields, f ∈ s.fields ∧ f.namesIdentity = false := fun f hf => (mem_dataFields_iff h).1 hf
  have hattribute : ∀ p ∈ s.attributes, p.1 ∈ s.fields ∧ p.1.namesIdentity = false := fun p hp =>
    hfield p.1 (mem_dataFields_of_mem_attributes hp)
  exact
    { columns := fun t ht c hc => by
        obtain ⟨columns, hcolumns, rfl⟩ := exists_of_table_eq_ok ht
        refine (List.mem_cons.1 hc).imp id (fun hc => ?_)
        obtain ⟨f, hf, hfc⟩ := Sequence.exists_of_mem_mapM hcolumns hc
        exact ⟨f, (hfield f hf).1, (hfield f hf).2, hfc⟩
      indexes := fun t ht i hi => by
        obtain ⟨columns, -, rfl⟩ := exists_of_table_eq_ok ht
        obtain ⟨f, hf, rfl⟩ := List.mem_map.1 hi
        have hf := hfield f (List.mem_of_mem_filter hf)
        exact ⟨f, hf.1, hf.2, rfl⟩
      mapped := fun l hl c hc => by
        obtain ⟨p, hp, hpc⟩ := Sequence.exists_of_mem_mapM hl hc
        exact ⟨p.1, (hattribute p hp).1, (hattribute p hp).2, p.2, hpc⟩
      requests := fun allOptional r hr => by
        obtain ⟨p, hp, rfl⟩ := List.mem_map.1 hr
        exact ⟨p.1, (hattribute p hp).1, (hattribute p hp).2, p.2, rfl⟩
      answers := fun a ha => by
        obtain ⟨p, hp, rfl⟩ := List.mem_map.1 ha
        exact ⟨p.1, (hattribute p hp).1, (hattribute p hp).2, p.2, rfl⟩
      modelImports := (modelHead_withFields hdata).symm
      serviceImports := (serviceHead_withFields hdata).symm
      texts := (sameTexts_withoutIdentity h).symm }

end Identity

/-- **The artifacts depend on what they should.**  Ids are seen by nothing, labels by the component alone, and the field
that names the identity by neither script nor model nor service. -/
theorem artifacts_depend_only (s t : Schema) :
    (s.withoutIds = t.withoutIds → (∀ threshold, s.validate threshold = t.validate threshold) ∧ SameTexts s t ∧
      s.component = t.component ∧ s.compile = t.compile ∧ ∀ threshold, s.run threshold = t.run threshold) ∧
    (s.withoutLabels = t.withoutLabels → SameTexts s t) ∧
    (s.fields.countP Field.namesIdentity ≤ 1 → t.fields.countP Field.namesIdentity ≤ 1 →
      (s.withoutIdentity = t.withoutIdentity → SameTexts s t) ∧ s.IdentityUnseen) := by
  refine ⟨fun hst => ⟨fun threshold => ?_, ?_, ?_, ?_, fun threshold => ?_⟩, fun hst => ?_,
    fun hs ht => ⟨fun hst => ?_, ?_⟩⟩
  · rw [← validate_withoutIds, hst, validate_withoutIds]
  · exact s.sameTexts_withoutIds.symm.trans (hst ▸ t.sameTexts_withoutIds)
  · rw [← component_withoutIds, hst, component_withoutIds]
  · rw [← compile_withoutIds, hst, compile_withoutIds]
  · rw [← run_withoutIds, hst, run_withoutIds]
  · have hlabels : ∀ u : Schema, SameTexts u.withoutLabels u := sameTexts_map Field.withoutLabel (fun _ => rfl)
    exact (hlabels s).symm.trans (hst ▸ hlabels t)
  · exact (sameTexts_withoutIdentity hs).symm.trans (hst ▸ sameTexts_withoutIdentity ht)
  · exact identityUnseen hs

def days (id label : Wording) (rest : List Field) : Schema :=
  { entityName := "Day", fields := { id := id, name := "date", label := label, type := .date } :: rest }

def saidNumber : Field :=
  { id := "2", name := "Id", label := "Number", type := .text, required := true, default? := some ("none" : Wording),
    indexed := true }

/-- **Days have the same tables and the same service** whatever their ids and labels are and whatever is said of their
number. -/
theorem days_depend_only : (days "1" "" [saidNumber]).component = (days "3" "" [saidNumber]).component ∧
    SameTexts (days "1" "" [saidNumber]) (days "1" "When" [saidNumber]) ∧
    SameTexts (days "1" "" [saidNumber]) (days "1" "" []) :=
  ⟨((artifacts_depend_only _ _).1 (by decide)).2.2.1, (artifacts_depend_only _ _).2.1 (by decide),
    ((artifacts_depend_only _ _).2.2 (by decide) (by decide)).1 (by decide)⟩

end Schema
end Scaffold
