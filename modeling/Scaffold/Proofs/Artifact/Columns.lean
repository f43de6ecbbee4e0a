import Scaffold.Proofs.Artifact.ComponentActions
import Scaffold.Proofs.Artifact.Keys
/-!
# Proofs.Artifact.Columns — the columns of a component and the keys of the answers

A component lists its columns and shows what a row has under the name of each.  The rows are the answers of the service,
whose keys are `id` and the names of the data fields, while the columns are the fields as they were declared.  So a
column has no data exactly if its field is the identity and is not spelled `id` (`columns_answered_iff`).
-/
namespace Scaffold

open Naming Source Text

namespace Wording

/-- **An identifier is denoted by its literal** in both languages. -/
theorem decode_of_identifier {w : Wording} (h : w.In identifiers) (d : Dialect) :
    decode d (w.signs.flatMap literalSign) = some w.points := by
  have hparts := forall_mem_of_isPlainIdentifier (isPlainIdentifier_of_in h)
  obtain ⟨l, hl, rfl⟩ := h
  rw [shown_ofText] at hparts
  have hplain : ∀ c ∈ (String.ofList l).toList, IsPlain c := fun c hc => isPlain_of_part (hparts c hc)
  rw [flatMap_literalSign_of_isPlain hplain, decode_of_isPlain hplain, points, points_ofText]

theorem points_injective_of_identifier {v w : Wording} (hv : v.In identifiers) (hw : w.In identifiers)
    (h : v.points = w.points) : v = w := by
  obtain ⟨a, -, rfl⟩ := hv
  obtain ⟨b, -, rfl⟩ := hw
  simp only [points, points_ofText, String.toList_ofList] at h
  rw [List.map_injective_iff.2 (fun _ _ => Char.toNat_inj.1) h]

end Wording

namespace Component

def listed? (l : List Char) : Option (List Nat) :=
  match tokens .escaped l with
  | .mark '\x7b' :: .word w :: .mark ':' :: .quoted '"' name :: _ =>
    if w = "name".toList then decode .component name else none
  | _ => none

def columnNames (component : String) : List (Option (List Nat)) :=
  (between "const COLUMNS = [" "];" (textLines component)).map listed?

/-- The line of the cells: each has what its row has under the name of the column. -/
def cellLine : String := "                <td key=\x7bcolumn.name\x7d>\x7bformatValue(item[column.name])\x7d</td>"

end Component

namespace Field

theorem listed?_listingLine {f : Field} (h : f.name.In identifiers) :
    Component.listed? f.listingLine.toList = some f.name.points := by
  have hfront : Closes .escaped "  \x7b name: ".toList [.mark '\x7b', .word "name".toList, .mark ':'] :=
    Closes.of_run (by decide +kernel)
  obtain ⟨rest, hline⟩ : ∃ rest : String, f.listingLine = "  \x7b name: " ++ quoted f.name ++ rest := by
    unfold listingLine
    simp only [String.append_assoc]
    exact ⟨_, rfl⟩
  have htokens := (hfront.append (closes_literal f.name.signs)) rest.toList
  rw [Component.listed?, hline, toList_literal_between, htokens]
  exact (if_pos rfl).trans (f.name.decode_of_identifier h .component)

theorem listingLine_ne (f : Field) : f.listingLine ≠ "];" := by
  intro heq
  have hhead : f.listingLine.toList.head? = some ' ' := by
    unfold listingLine
    simp only [String.append_assoc]
    rw [String.toList_append, String.toList_ofList]
    rfl
  rw [heq] at hhead
  revert hhead
  decide

end Field

namespace Schema

open Component

def answerKeys (s : Schema) : List (Option (List Nat)) :=
  (declaredKeys "serialization_alias" (s.serviceClass "Out")).map Prod.snd

def columnsFront (s : Schema) : List String :=
  ["import \x7b useEffect, useState \x7d from \"react\";", "", s.addressLine, ""]

theorem columnsLine_not_mem (s : Schema) : "const COLUMNS = [" ∉ s.columnsFront := by
  -- the seventh character tells them apart
  have hcolumns : "const COLUMNS = [".toList[6]? = some 'C' := by rw [String.toList_ofList]; rfl
  have haddress : s.addressLine.toList[6]? = some 'A' := by
    unfold addressLine
    simp only [String.append_assoc]
    rw [String.toList_append, String.toList_ofList]
    rfl
  have hother : ∀ l ∈ s.columnsFront, l.toList[6]? ≠ some 'C' := by
    simp only [columnsFront, List.forall_mem_cons, List.not_mem_nil, false_implies, implies_true, haddress, and_true]
    and_intros <;> first | (rw [String.toList_ofList]; decide) | decide
  exact fun hmem => hother _ hmem hcolumns

theorem componentLines_split (s : Schema) (entries : List String) : ∃ rest, s.componentLines entries =
    s.columnsFront ++ "const COLUMNS = [" :: (s.fields.map Field.listingLine ++ "];" :: rest) := by
  unfold componentLines columnsFront
  simp only [List.append_assoc, List.cons_append, List.nil_append]
  exact ⟨_, rfl⟩

theorem columns_between (s : Schema) (entries : List String) (rest : List (List Char)) :
    between "const COLUMNS = [" "];" ((s.componentLines entries).map String.toList ++ rest) =
      (s.fields.map Field.listingLine).map String.toList := by
  obtain ⟨behind, hsplit⟩ := s.componentLines_split entries
  have hbody : "];" ∉ s.fields.map Field.listingLine := fun hmem => by
    obtain ⟨f, -, heq⟩ := List.mem_map.1 hmem
    exact f.listingLine_ne heq
  rw [hsplit, between_map_toList s.columnsLine_not_mem hbody]

theorem cellLine_mem (s : Schema) (entries : List String) : cellLine ∈ s.componentLines entries := by
  have htable : cellLine ∈ tableLines s.operations := by
    unfold tableLines
    exact List.mem_append_left _ (List.mem_append_left _ (List.mem_append_right _
      (.tail _ (.tail _ (.tail _ (.tail _ (.tail _ (.tail _ (.head _)))))))))
  unfold componentLines
  exact List.mem_append_left _ (List.mem_append_left _ (List.mem_append_right _ htable))

namespace Named

variable {s : Schema}

/-- **A component lists every field under its name**, in declared order, and shows what a row has under it. -/
theorem columns_listed (h : s.Named) : ∃ component, s.component = .ok component ∧
    columnNames component = s.fields.map (fun f => some f.name.points) ∧ cellLine.toList ∈ textLines component := by
  obtain ⟨entries, hcomponent, hlines, -⟩ := h.component_lines
  have hlisted : ((s.fields.map Field.listingLine).map String.toList).map listed? =
      s.fields.map (fun f => some f.name.points) := by
    rw [List.map_map, List.map_map]
    refine List.map_congr_left (fun f hf => ?_)
    have hname : f.name.In identifiers := h.names _ (List.mem_cons_of_mem _ (List.mem_map_of_mem hf))
    rw [Function.comp_apply, Function.comp_apply, f.listed?_listingLine hname]
  refine ⟨_, hcomponent, ?_, ?_⟩
  · rw [columnNames, hlines, columns_between, hlisted]
  · rw [hlines]
    exact List.mem_append_left _ (List.mem_map_of_mem (s.cellLine_mem entries))

theorem answerKeys_eq (h : s.Named) : s.answerKeys =
    some (identityName : Wording).points :: s.dataFields.map (fun f => some f.name.points) := by
  have hidentity : identityBinding.2 = some (identityName : Wording).points :=
    congrArg some (Wording.points_ofText identityName).symm
  have hfields : s.dataFields = s.attributes.map Prod.fst := s.map_fst_attributes.symm
  rw [answerKeys, h.declaredKeys_answer, bindings_attributes, List.map_cons, hidentity, List.map_map, hfields,
    List.map_map]
  rfl

/-- **A field has a key under its name**, unless it is the identity and spelled otherwise. -/
theorem mem_answerKeys_iff (h : s.Named) {f : Field} (hf : f ∈ s.fields) :
    some f.name.points ∈ s.answerKeys ↔ (f.namesIdentity = true → f.name = (identityName : Wording)) := by
  have hidentity : (identityName : Wording).In identifiers := Wording.ofText_in_identifiers identityName (by decide)
  have hnames : ∀ {g : Field}, g ∈ s.fields → g.name.In identifiers := fun hg =>
    h.names _ (List.mem_cons_of_mem _ (List.mem_map_of_mem hg))
  rw [h.answerKeys_eq, List.mem_cons, Option.some.injEq]
  constructor
  · rintro (heq | hmem) hid
    · exact Wording.points_injective_of_identifier (hnames hf) hidentity heq
    · obtain ⟨g, hg, heq⟩ := List.mem_map.1 hmem
      have hname : g.name = f.name := Wording.points_injective_of_identifier (hnames (mem_fields_of_mem_dataFields hg))
        (hnames hf) (Option.some.inj heq)
      have hnot := h.accepted.not_namesIdentity hg
      rw [Field.namesIdentity, hname] at hnot
      exact absurd (hid.symm.trans hnot) (by decide)
  · intro hspelled
    cases hid : f.namesIdentity with
    | true => exact .inl (congrArg Wording.points (hspelled hid))
    | false =>
      refine .inr (List.mem_map.2 ⟨f, ?_, rfl⟩)
      rw [h.accepted.dataFields_eq, List.mem_filter]
      exact ⟨hf, by rw [hid]; rfl⟩

end Named

/-- **Every column has data, exactly if the identity is spelled `id`.**  The columns are the fields under their names,
the keys of an answer are `id` and the names of the data fields, and a field has a key under its name unless it is the
identity in another spelling. -/
theorem columns_answered_iff {threshold : Int} {s : Schema} (h : (s.validate threshold).errors = [])
    (hnames : ∀ w ∈ s.names, w.In identifiers) : ∃ component, s.component = .ok component ∧
      cellLine.toList ∈ textLines component ∧
      columnNames component = s.fields.map (fun f => some f.name.points) ∧
      s.answerKeys = some (identityName : Wording).points :: s.dataFields.map (fun f => some f.name.points) ∧
      (∀ f ∈ s.fields, some f.name.points ∈ s.answerKeys ↔
        (f.namesIdentity = true → f.name = (identityName : Wording))) ∧
      ((∀ name ∈ columnNames component, name ∈ s.answerKeys) ↔
        ∀ f ∈ s.fields, f.namesIdentity = true → f.name = (identityName : Wording)) := by
  have hnamed := Named.of_errors h hnames
  obtain ⟨component, hcomponent, hcolumns, hcells⟩ := hnamed.columns_listed
  refine ⟨component, hcomponent, hcells, hcolumns, hnamed.answerKeys_eq, fun f hf => hnamed.mem_answerKeys_iff hf, ?_⟩
  rw [hcolumns, List.forall_mem_map]
  exact forall₂_congr (fun f hf => hnamed.mem_answerKeys_iff hf)

def books (identity : String) : Schema :=
  { entityName := "Book",
    fields := [{ id := "1", name := identity, type := .number }, { id := "2", name := "title" }] }

theorem books_names (identity : String) (h : isPlainIdentifier identity.toList = true) :
    ∀ w ∈ (books identity).names, w.In identifiers :=
  List.forall_mem_cons.2 ⟨Wording.ofText_in_identifiers "Book" (by decide),
    List.forall_mem_cons.2 ⟨Wording.ofText_in_identifiers identity h,
      List.forall_mem_singleton.2 (Wording.ofText_in_identifiers "title" (by decide))⟩⟩

/-- **Both columns of books have data** if the identity is spelled `id`. -/
theorem columns_answered_books : ∃ component, (books "id").component = .ok component ∧
    columnNames component = [some ("id" : Wording).points, some ("title" : Wording).points] ∧
    ∀ name ∈ columnNames component, name ∈ (books "id").answerKeys := by
  obtain ⟨component, hcomponent, -, hcolumns, -, -, hiff⟩ :=
    @columns_answered_iff defaultThreshold (books "id") (by decide +kernel) (books_names "id" (by decide))
  refine ⟨component, hcomponent, hcolumns, hiff.2 ?_⟩
  exact List.forall_mem_cons.2 ⟨fun _ => rfl, List.forall_mem_singleton.2 (by decide +kernel)⟩

/-- **The column `ID` has no data**: the answers have the identity under `id`. -/
theorem column_without_data : ((books "ID").validate defaultThreshold).errors = [] ∧
    (∀ w ∈ (books "ID").names, w.In identifiers) ∧ ∃ component, (books "ID").component = .ok component ∧
      some ("ID" : Wording).points ∈ columnNames component ∧
      some ("ID" : Wording).points ∉ (books "ID").answerKeys := by
  have haccepted : ((books "ID").validate defaultThreshold).errors = [] := by decide +kernel
  have hnames := books_names "ID" (by decide)
  have hnamed := Named.of_errors haccepted hnames
  obtain ⟨component, hcomponent, hcolumns, -⟩ := hnamed.columns_listed
  refine ⟨haccepted, hnames, component, hcomponent, ?_, fun hmem => ?_⟩
  · rw [hcolumns]
    exact List.mem_cons_self
  · have hspelled :=
      (hnamed.mem_answerKeys_iff (f := { id := "1", name := "ID", type := .number }) List.mem_cons_self).1 hmem
    exact absurd (hspelled (by decide +kernel)) (by decide +kernel)

end Schema

end Scaffold
