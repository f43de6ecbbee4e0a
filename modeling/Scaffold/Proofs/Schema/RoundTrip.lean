import Scaffold.Proofs.Artifact.Dependence
import Scaffold.Proofs.Schema.Passing
/-!
# Proofs.Schema.RoundTrip — schemas from their own data

A schema is read back from its data (`ofJson_toJson`).  What is created from a schema, or from data that reads as one
(`createFromData_of_ofMembers`), is the schema with the next ids of the supply and with labels where there were none;
once it has its labels, creating it anew changes nothing but the ids (`create_created`).
-/
namespace Scaffold

/-! ## Reading what was written -/

theorem Field.check_toJson (place : List Step) (f : Field) : check place f.toJson = .ok f := by
  refine ofMembers_eq_ok_iff.2 ⟨?_, ?_, ?_, ?_, ?_, ?_, ?_⟩
  · rw [Check.required_of_get? rfl]
    rfl
  · rw [Check.required_of_get? rfl]
    rfl
  · rw [Check.optional_of_get? rfl]
    rfl
  · rw [Check.optional_of_get? rfl, FieldType.check_name]
  · rw [Check.optional_of_get? rfl]
    rfl
  · cases f.default? <;> rfl
  · rw [Check.optional_of_get? rfl]
    rfl

theorem Operations.check_toJson (place : List Step) (ops : Operations) : check place ops.toJson = .ok ops := rfl

theorem Field.list_check_toJson (place : List Step) :
    ∀ (n : Nat) (l : List Field), Checked.list check place n (l.map toJson) = .ok l
  | _, [] => rfl
  | n, f :: l => by
    rw [List.map_cons, Checked.list, check_toJson, list_check_toJson place (n + 1) l]
    rfl

theorem Schema.ofJson_toJson (s : Schema) : ofJson s.toJson = .ok s := by
  refine ofMembers_eq_ok_iff.2 ⟨rfl, ?_, ?_, ?_⟩
  · rw [Check.optional_of_get? rfl, checkFields, Field.list_check_toJson]
  · rw [Check.optional_of_get? rfl, Operations.check_toJson]
  · rw [Check.optional_of_get? rfl]
    rfl

/-! ## Labels and ids -/

namespace Field

def labelled (f : Field) : Field := { f with label := if f.label.isEmpty then Naming.label f.name else f.label }

def withId (id : Wording) (f : Field) : Field := { f with id := id }

theorem labelled_labelled (f : Field) : f.labelled.labelled = f.labelled := by
  by_cases hempty : f.label.isEmpty
  · simp only [labelled, hempty, if_true, ite_self]
  · simp only [labelled, hempty, Bool.false_eq_true, if_false]

end Field

namespace Schema

def labelled (s : Schema) : Schema := s.withFields (s.fields.map Field.labelled)

def withIds (ids : List Wording) (s : Schema) : Schema := s.withFields (List.zipWith Field.withId ids s.fields)

def renewed (supply : Supply) (s : Schema) : Schema := s.labelled.withIds (supply.upcoming s.fields.length)

theorem labelled_renewed (supply : Supply) (s : Schema) : (s.renewed supply).labelled = s.renewed supply := by
  have hfields : ∀ (ids : List Wording) (l : List Field),
      (List.zipWith Field.withId ids (l.map Field.labelled)).map Field.labelled =
        List.zipWith Field.withId ids (l.map Field.labelled) := fun ids l => by
    rw [List.map_zipWith, List.zipWith_map_right, List.zipWith_map_right]
    congr 1
    funext id f
    exact congrArg (Field.withId id) f.labelled_labelled
  exact congrArg (s.withFields ·) (hfields _ _)

theorem length_fields_renewed (supply : Supply) (s : Schema) : (s.renewed supply).fields.length = s.fields.length := by
  simp [renewed, withIds, labelled, withFields, Supply.upcoming]

end Schema

/-! ## What stays -/

/-- **A field that was made anew of another** is the same but for its id, and for its label if there was none. -/
structure Field.Renews (f g : Field) : Prop where
  name : g.name = f.name
  label : f.label ≠ "" → g.label = f.label
  type : g.type = f.type
  required : g.required = f.required
  default : g.default? = f.default?
  indexed : g.indexed = f.indexed

theorem Field.renews_withId_labelled (id : Wording) (f : Field) : f.Renews (f.labelled.withId id) :=
  ⟨rfl, fun hlabel => if_neg (mt Wording.isEmpty_iff.1 hlabel), rfl, rfl, rfl, rfl⟩

/-- **A schema that was made anew of another**: the name of the entity, the fields in their order, the operations and
the pages are the same. -/
structure Schema.Renews (s t : Schema) : Prop where
  entityName : t.entityName = s.entityName
  fields : List.Forall₂ Field.Renews s.fields t.fields
  operations : t.operations = s.operations
  paginate : t.paginate = s.paginate

namespace Schema

theorem renews_renewed (supply : Supply) (s : Schema) : s.Renews (s.renewed supply) := by
  have hfields : ∀ (supply : Supply) (l : List Field),
      List.Forall₂ Field.Renews l (List.zipWith Field.withId (supply.upcoming l.length) (l.map Field.labelled)) := by
    intro supply l
    induction l generalizing supply with
    | nil => exact .nil
    | cons f l ih =>
      rw [List.length_cons, Supply.upcoming_succ]
      exact .cons (f.renews_withId_labelled _) (ih supply.draw.2)
  exact ⟨rfl, hfields supply s.fields, rfl, rfl⟩

/-! ## Creating from a schema -/

theorem renewFields_eq : ∀ (supply : Supply) (l : List Field), renewFields supply l =
    (List.zipWith Field.withId (supply.upcoming l.length) (l.map Field.labelled), supply.after l.length)
  | _, [] => rfl
  | supply, f :: l => by
    rw [List.length_cons, Supply.upcoming_succ, Supply.after_succ, List.map_cons, List.zipWith_cons_cons, renewFields]
    simp only [renewFields_eq supply.draw.2 l]
    rfl

theorem create_schema (supply : Supply) (s : Schema) :
    create supply (.schema s) = (.ok (s.renewed supply), supply.after s.fields.length) := by
  rw [create, renew, renewFields_eq]
  rfl

theorem create_created (supply supply' : Supply) (s : Schema) : create supply' (.schema (s.renewed supply)) =
    (.ok ((s.renewed supply).withIds (supply'.upcoming s.fields.length)), supply'.after s.fields.length) := by
  rw [create_schema, renewed, labelled_renewed, length_fields_renewed]

theorem ids_renewed (supply : Supply) (s : Schema) : (s.renewed supply).ids = supply.upcoming s.fields.length := by
  have hids := (ids_of_create supply (.schema s)).2 (s.renewed supply)
  rw [create_schema, length_fields_renewed] at hids
  exact (hids rfl).1

/-! ## Creating from data -/

theorem get?_label_completed (id : Wording) {place : List Step} {m : Json.Members} {f : Field}
    (h : Field.ofMembers place m = .ok f) : (completed id m).get? "label" = some (.str f.labelled.label) := by
  obtain ⟨-, hname, hlabel, -⟩ := Field.ofMembers_eq_ok_iff.1 h
  have hsame : ∀ key : Wording, key ≠ "id" → Json.Members.get? (m.set "id" (.str id)) key = m.get? key := by
    intro key hkey
    rw [Json.Members.get?_set, if_neg (Ne.symm hkey)]
  have hnamed : labelOf (m.get? "name") = Naming.label f.name := by
    cases hget : m.get? "name" with
    | none => simp [Check.required, Check.lookup?, hget, Checked.fault] at hname
    | some v =>
      rw [Check.required_of_get? hget, Check.string_eq_ok_iff] at hname
      rw [hname, labelOf]
  simp only [completed, hsame "label" (by decide), hsame "name" (by decide), hnamed]
  cases hget : m.get? "label" with
  | none =>
    have hempty : f.label = "" := by
      simp only [Check.optional, Check.lookup?, hget, Checked.ok.injEq] at hlabel
      exact hlabel.symm
    rw [Field.labelled, hempty]
    exact (Json.Members.get?_set _ _ _ _).trans (if_pos rfl)
  | some v =>
    rw [Check.optional_of_get? hget, Check.string_eq_ok_iff] at hlabel
    obtain rfl := hlabel
    cases hempty : f.label.isEmpty with
    | true =>
      simp only [Json.truthy, Field.labelled, hempty, Bool.not_true, Bool.false_eq_true, if_false, if_true]
      exact (Json.Members.get?_set _ _ _ _).trans (if_pos rfl)
    | false =>
      simp only [Json.truthy, Field.labelled, hempty, Bool.not_false, Bool.false_eq_true, if_false, if_true]
      exact (hsame "label" (by decide)).trans hget

theorem check_completed (id : Wording) {place : List Step} {m : Json.Members} {f : Field}
    (h : Field.ofMembers place m = .ok f) (place' : List Step) :
    Field.check place' (.obj (completed id m)) = .ok (f.labelled.withId id) := by
  have hid : Check.required (completed id m) place' ["id"] Check.string = .ok id := by
    rw [Check.required_of_get? (get?_completed id m)]
    rfl
  have hlabel : Check.optional (completed id m) place' ["label"] ("" : Wording) Check.string =
      .ok f.labelled.label := by
    rw [Check.optional_of_get? (get?_label_completed id h)]
    rfl
  have hfield := Field.ofMembers_of_rest h (fun hne hne' => get?_completed_of_ne hne hne' id m) hid hlabel
  exact hfield

theorem exists_completedAll {l : List Json} {fields : List Field}
    (h : List.Forall₂ (fun v f => ∃ place, Field.check place v = .ok f) l fields) (supply : Supply) : ∃ records,
    completedAll supply l = (.ok records, supply.after fields.length) ∧
    ∀ place n, Checked.list Field.check place n records =
      .ok (List.zipWith Field.withId (supply.upcoming fields.length) (fields.map Field.labelled)) := by
  induction h generalizing supply with
  | nil => exact ⟨[], rfl, fun _ _ => rfl⟩
  | @cons v f l fields hf _ ih =>
    obtain ⟨place, hf⟩ := hf
    obtain ⟨m, rfl⟩ : ∃ m, v = .obj m := by
      cases v with
      | obj m => exact ⟨m, rfl⟩
      | _ => cases hf
    obtain ⟨records, hrecords, hpass⟩ := ih supply.draw.2
    refine ⟨.obj (completed supply.draw.1 m) :: records, ?_, fun place' n => ?_⟩
    · rw [List.length_cons, Supply.after_succ]
      simp only [completedAll, Json.record, hrecords]
    · rw [Checked.list, check_completed _ hf, hpass, List.length_cons, Supply.upcoming_succ]
      rfl

theorem exists_rawFields {m : Json.Members} {s : Schema} (h : ofMembers m = .ok s) : ∃ raw, rawFields m = .ok raw ∧
    List.Forall₂ (fun v f => ∃ place, Field.check place v = .ok f) raw s.fields := by
  obtain ⟨-, hfields, -⟩ := ofMembers_eq_ok_iff.1 h
  cases hget : m.get? "fields" with
  | none =>
    simp only [Check.optional, Check.lookup?, hget, Checked.ok.injEq] at hfields
    exact ⟨[], by rw [rawFields, hget], hfields ▸ .nil⟩
  | some v =>
    rw [Check.optional_of_get? hget] at hfields
    cases v with
    | arr items =>
      refine ⟨items, ?_, Checked.forall₂_of_list hfields⟩
      cases items <;> simp [rawFields, hget, Json.truthy, Json.items, Json.items?]
    | _ => cases hfields

/-- **What is created from data that reads as a schema is what is created from the schema.** -/
theorem createFromData_of_ofMembers (supply : Supply) {m : Json.Members} {s : Schema} (h : ofMembers m = .ok s) :
    createFromData supply (.obj m) = (.ok (s.renewed supply), supply.after s.fields.length) := by
  obtain ⟨raw, hraw, hpassed⟩ := exists_rawFields h
  obtain ⟨records, hrecords, hchecked⟩ := exists_completedAll hpassed supply
  have hget := Json.Members.get?_set_self m "fields" (.arr records)
  have hmade : ofMembers (m.set "fields" (.arr records)) = .ok (s.renewed supply) := by
    refine ofMembers_of_other_fields h (fun hkey => ?_) hget (hchecked _ _)
    rw [Json.Members.get?_set, if_neg (Ne.symm hkey)]
  simp only [createFromData, Json.record, hraw, hrecords, hmade]

/-- **A schema and its data are as good as each other**, and what is created from either is the schema itself but for
ids that are new, and for labels where there were none. -/
structure RoundTrips (s : Schema) : Prop where
  read : ofJson s.toJson = .ok s
  data : ∀ supply, create supply (.data s.toJson) = create supply (.schema s)
  created : ∀ supply, create supply (.schema s) =
    (.ok (s.labelled.withIds (supply.upcoming s.fields.length)), supply.after s.fields.length)
  fresh : ∀ supply, (s.renewed supply).ids.Nodup ∧ ∀ id ∈ (s.renewed supply).ids, ¬ supply.Drawn id
  renews : ∀ supply, s.Renews (s.renewed supply)
  /-- Creating once more changes nothing but ids. -/
  again : ∀ supply supply', create supply' (.schema (s.renewed supply)) =
    (.ok ((s.renewed supply).withIds (supply'.upcoming s.fields.length)), supply'.after s.fields.length)

theorem roundTrips (s : Schema) : s.RoundTrips where
  read := s.ofJson_toJson
  data supply := (createFromData_of_ofMembers supply s.ofJson_toJson).trans (create_schema supply s).symm
  created supply := create_schema supply s
  fresh supply := by
    rw [ids_renewed]
    exact ⟨supply.nodup_upcoming _, fun id hid => (Supply.drawn_of_mem_upcoming hid).1⟩
  renews supply := s.renews_renewed supply
  again supply supply' := create_created supply supply' s

end Schema
end Scaffold
