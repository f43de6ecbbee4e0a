import Scaffold.Proofs.Check
import Scaffold.Schema.Create
/-!
# Proofs.Schema.Create — what data makes a schema

Members make a field or a schema exactly if each part passes its own check (`Field.ofMembers_eq_ok_iff`,
`Schema.ofMembers_eq_ok_iff`).  Making a schema from data ends in one of five ways (`Schema.fromData`), of which one
makes a schema.
-/
namespace Scaffold

/-- **What it takes for members to make a field**: each attribute is read under its own keys. -/
theorem Field.ofMembers_eq_ok_iff {place : List Step} {m : Json.Members} {g : Field} : ofMembers place m = .ok g ↔
    Check.required m place ["id"] Check.string = .ok g.id ∧
    Check.required m place ["name"] Check.string = .ok g.name ∧
    Check.optional m place ["label"] ("" : Wording) Check.string = .ok g.label ∧
    Check.optional m place ["type"] .string FieldType.check = .ok g.type ∧
    Check.optional m place ["required"] false Check.bool = .ok g.required ∧
    Check.optional m place defaultKeys none Check.string? = .ok g.default? ∧
    Check.optional m place ["indexed"] false Check.bool = .ok g.indexed := by
  simp only [ofMembers, Checked.seq_eq_ok_iff, Checked.map_eq_ok_iff]
  constructor
  · rintro ⟨_, _, ⟨_, _, ⟨_, _, ⟨_, _, ⟨_, _, ⟨_, _, ⟨_, hid, rfl⟩, hname, rfl⟩, hlabel, rfl⟩, htype, rfl⟩,
      hrequired, rfl⟩, hdefault, rfl⟩, hindexed, rfl⟩
    exact ⟨hid, hname, hlabel, htype, hrequired, hdefault, hindexed⟩
  · rintro ⟨hid, hname, hlabel, htype, hrequired, hdefault, hindexed⟩
    exact ⟨_, _, ⟨_, _, ⟨_, _, ⟨_, _, ⟨_, _, ⟨_, _, ⟨_, hid, rfl⟩, hname, rfl⟩, hlabel, rfl⟩, htype, rfl⟩,
      hrequired, rfl⟩, hdefault, rfl⟩, hindexed, rfl⟩

namespace Schema

theorem ofMembers_eq_ok_iff {m : Json.Members} {s : Schema} : ofMembers m = .ok s ↔
    Check.required m [] entityNameKeys Check.string = .ok s.entityName ∧
    Check.optional m [] ["fields"] [] checkFields = .ok s.fields ∧
    Check.optional m [] ["operations"] {} Operations.check = .ok s.operations ∧
    Check.optional m [] ["paginate"] false Check.bool = .ok s.paginate := by
  simp only [ofMembers, Checked.seq_eq_ok_iff, Checked.map_eq_ok_iff]
  constructor
  · rintro ⟨_, _, ⟨_, _, ⟨_, _, ⟨_, hname, rfl⟩, hfields, rfl⟩, hoperations, rfl⟩, hpaginate, rfl⟩
    exact ⟨hname, hfields, hoperations, hpaginate⟩
  · rintro ⟨hname, hfields, hoperations, hpaginate⟩
    exact ⟨_, _, ⟨_, _, ⟨_, _, ⟨_, hname, rfl⟩, hfields, rfl⟩, hoperations, rfl⟩, hpaginate, rfl⟩

theorem fields_of_ofMembers {m : Json.Members} {v : Json} {s : Schema} (hfields : m.get? "fields" = some v)
    (h : ofMembers m = .ok s) : checkFields [.key "fields"] v = .ok s.fields := by
  obtain ⟨-, hchecked, -⟩ := ofMembers_eq_ok_iff.1 h
  rwa [Check.optional_of_get? hfields] at hchecked

/-- **What becomes of data**: it is no record, its fields hold nothing one after the other or something that is no
record, the completed fields make no schema, or they make one. -/
inductive FromData (supply : Supply) (v : Json) : Except CreateError Schema × Supply → Prop where
  | noRecord {e : ShapeError} : v.record = .error e → FromData supply v (.error (.shape e), supply)
  | noFields {m : Json.Members} {e : ShapeError} : v.record = .ok m → rawFields m = .error e →
      FromData supply v (.error (.shape e), supply)
  | noRecords {m : Json.Members} {raw : List Json} {e : ShapeError} {after : Supply} : v.record = .ok m →
      rawFields m = .ok raw → completedAll supply raw = (.error e, after) → FromData supply v (.error (.shape e), after)
  | refused {m : Json.Members} {raw records : List Json} {issues : List Issue} {after : Supply} : v.record = .ok m →
      rawFields m = .ok raw → completedAll supply raw = (.ok records, after) →
      ofMembers (m.set "fields" (.arr records)) = .refused issues → FromData supply v (.error (.invalid issues), after)
  | made {m : Json.Members} {raw records : List Json} {s : Schema} {after : Supply} : v.record = .ok m →
      rawFields m = .ok raw → completedAll supply raw = (.ok records, after) →
      ofMembers (m.set "fields" (.arr records)) = .ok s → FromData supply v (.ok s, after)

theorem fromData (supply : Supply) (v : Json) : FromData supply v (createFromData supply v) := by
  unfold createFromData
  split
  · exact .noRecord ‹_›
  · split
    · exact .noFields ‹_› ‹_›
    · split
      · exact .noRecords ‹_› ‹_› ‹_›
      · split
        · exact .made ‹_› ‹_› ‹_› ‹_›
        · exact .refused ‹_› ‹_› ‹_› ‹_›

theorem exists_of_createFromData {supply : Supply} {m : Json.Members} {s : Schema}
    (h : (createFromData supply (.obj m)).1 = .ok s) : ∃ raw fields, rawFields m = .ok raw ∧
      (completedAll supply raw).1 = .ok fields ∧ ofMembers (m.set "fields" (.arr fields)) = .ok s := by
  have hdata := fromData supply (.obj m)
  generalize createFromData supply (.obj m) = result at h hdata
  cases hdata with
  | made hrecord hraw hcompleted hmade =>
    obtain rfl := Except.ok.inj hrecord
    obtain rfl := Except.ok.inj h
    exact ⟨_, _, hraw, congrArg Prod.fst hcompleted, hmade⟩
  | _ => cases h

end Schema
end Scaffold
