import Scaffold.Proofs.Json.Keys
import Scaffold.Proofs.Schema.Update
/-!
# Proofs.Schema.Passing — what passes once passes elsewhere

Whether a value passes a check does not depend on the place where it stands (`Check.Placeless`), so a field that passes
in one list passes in another, and a list passes exactly if each of its elements does.  A schema is made from its fields
once they are completed (`Schema.exists_of_createFromData`); with other fields in their place it is one exactly if these
pass (`Schema.exists_ofMembers_set_fields_iff`).
-/
namespace Scaffold

/-! ## Checks at other places -/

namespace Check

variable {α : Type}

/-- **Whether a value passes does not depend on its place.** -/
def Placeless (check : List Step → Json → Checked α) : Prop :=
  ∀ place place' v a, check place v = .ok a → check place' v = .ok a

theorem string_eq_ok_iff {place : List Step} {v : Json} {w : Wording} : string place v = .ok w ↔ v = .str w := by
  cases v <;> simp [string, Checked.fault]

theorem placeless_string : Placeless string := fun _ _ _ _ h => string_eq_ok_iff.2 (string_eq_ok_iff.1 h)

theorem placeless_string? : Placeless string? := fun _ _ v _ h => by
  cases v with
  | null => exact h
  | str w => exact h
  | _ => cases h

def boolOf? : Json → Option Bool
  | .bool b => some b
  | .int n => if isWord n then boolOfInt? n else none
  | .float x => (wordOf? x).bind boolOfInt?
  | .str w => w.text?.bind boolOfText?
  | _ => none

theorem bool_eq_ok_iff {place : List Step} {v : Json} {b : Bool} : bool place v = .ok b ↔ boolOf? v = some b := by
  cases v with
  | int n =>
    cases hword : isWord n with
    | false => simp [bool, boolOf?, hword, Checked.fault]
    | true => cases hread : boolOfInt? n <;> simp [bool, boolOf?, hword, hread, Checked.fault]
  | float x =>
    cases hword : wordOf? x with
    | none => simp [bool, boolOf?, hword, Checked.fault]
    | some n => cases hread : boolOfInt? n <;> simp [bool, boolOf?, hword, hread, Checked.fault]
  | str w =>
    cases htext : w.text? with
    | none => simp [bool, boolOf?, text, htext, Checked.fault]
    | some s => cases hread : boolOfText? s <;> simp [bool, boolOf?, text, htext, hread, Checked.fault]
  | _ => simp [bool, boolOf?, Checked.fault]

theorem placeless_bool : Placeless bool := fun _ _ _ _ h => bool_eq_ok_iff.2 (bool_eq_ok_iff.1 h)

variable {m m' : Json.Members} {place place' : List Step} {keys : List String}
  {check : List Step → Json → Checked α} {a : α}

theorem lookup?_congr : ∀ {keys : List String}, (∀ key ∈ keys, m'.get? key = m.get? key) →
    lookup? m' keys = lookup? m keys
  | [], _ => rfl
  | key :: rest, h => by
    obtain ⟨hkey, hrest⟩ := List.forall_mem_cons.1 h
    rw [lookup?, lookup?, hkey, lookup?_congr hrest]

theorem optional_congr (hcheck : Placeless check) (hkeys : ∀ key ∈ keys, m'.get? key = m.get? key) {absent : α}
    (h : optional m place keys absent check = .ok a) : optional m' place' keys absent check = .ok a := by
  unfold optional at h ⊢
  rw [lookup?_congr hkeys]
  split at h
  · exact hcheck _ _ _ _ h
  · exact h

theorem required_congr (hcheck : Placeless check) (hkeys : ∀ key ∈ keys, m'.get? key = m.get? key)
    (h : required m place keys check = .ok a) : required m' place' keys check = .ok a := by
  unfold required at h ⊢
  rw [lookup?_congr hkeys]
  split at h
  · exact hcheck _ _ _ _ h
  · cases h

end Check

namespace FieldType

theorem check_eq_ok_iff {place : List Step} {v : Json} {t : FieldType} :
    check place v = .ok t ↔ ∃ w : Wording, v = .str w ∧ w.text?.bind ofName? = some t := by
  cases v with
  | str w =>
    cases htext : w.text? with
    | none => simp [check, Check.text, htext, Checked.fault]
    | some s => cases hname : ofName? s <;> simp [check, Check.text, htext, hname, Checked.fault]
  | _ => simp [check, Checked.fault]

theorem placeless_check : Check.Placeless check := fun _ _ _ _ h => check_eq_ok_iff.2 (check_eq_ok_iff.1 h)

end FieldType

namespace Checked

theorem exists_list_map_eq_ok_iff {α β : Type} {check : List Step → Json → Checked α} {f : β → Json} {P : β → Prop} :
    ∀ {l : List β}, (∀ b ∈ l, ∀ place, (∃ a, check place (f b) = .ok a) ↔ P b) → ∀ (place : List Step) (n : Nat),
      (∃ r, list check place n (l.map f) = .ok r) ↔ ∀ b ∈ l, P b
  | [], _, place, n => iff_of_true ⟨[], rfl⟩ (List.forall_mem_nil P)
  | b :: l, h, place, n => by
    obtain ⟨hb, hl⟩ := List.forall_mem_cons.1 h
    rw [List.forall_mem_cons, ← hb (place ++ [.index n]), ← exists_list_map_eq_ok_iff hl place (n + 1)]
    simp only [List.map_cons, list, seq_eq_ok_iff, map_eq_ok_iff]
    constructor
    · rintro ⟨_, _, l, ⟨a, ha, rfl⟩, hl, rfl⟩
      exact ⟨⟨a, ha⟩, l, hl⟩
    · rintro ⟨⟨a, ha⟩, l, hl⟩
      exact ⟨_, _, l, ⟨a, ha, rfl⟩, hl, rfl⟩

end Checked

namespace Json

def isText : Json → Bool
  | .str _ => true
  | _ => false

theorem isText_iff {v : Json} : v.isText = true ↔ ∃ w, v = .str w := by
  cases v <;> simp [isText]

theorem members?_eq_some_iff {v : Json} {m : Members} : v.members? = some m ↔ v = .obj m := by
  cases v <;> simp [members?]

end Json

/-! ## The fields of a schema -/

/-- With another id and another label a field is the same but for these. -/
theorem Field.ofMembers_of_rest {place place' : List Step} {m m' : Json.Members} {f : Field} {id label : Wording}
    (h : ofMembers place m = .ok f) (hrest : ∀ {key : Wording}, key ≠ "id" → key ≠ "label" → m'.get? key = m.get? key)
    (hid : Check.required m' place' ["id"] Check.string = .ok id)
    (hlabel : Check.optional m' place' ["label"] ("" : Wording) Check.string = .ok label) :
    ofMembers place' m' = .ok { f with id := id, label := label } := by
  obtain ⟨-, hname, -, htype, hrequired, hdefault, hindexed⟩ := ofMembers_eq_ok_iff.1 h
  have hone : ∀ {key : String}, (key : Wording) ≠ "id" → (key : Wording) ≠ "label" →
      ∀ k ∈ [key], m'.get? k = m.get? k := fun hid hlabel => List.forall_mem_singleton.2 (hrest hid hlabel)
  refine ofMembers_eq_ok_iff.2 ⟨hid, ?_, hlabel, ?_, ?_, ?_, ?_⟩
  · exact Check.required_congr Check.placeless_string (hone (by decide) (by decide)) hname
  · exact Check.optional_congr FieldType.placeless_check (hone (by decide) (by decide)) htype
  · exact Check.optional_congr Check.placeless_bool (hone (by decide) (by decide)) hrequired
  · refine Check.optional_congr Check.placeless_string? (List.forall_mem_cons.2 ⟨?_, hone ?_ ?_⟩) hdefault
    · exact hrest (by decide) (by decide)
    · decide
    · decide
  · exact Check.optional_congr Check.placeless_bool (hone (by decide) (by decide)) hindexed

namespace Schema

theorem get?_completed_of_ne {key : Wording} (hid : key ≠ "id") (hlabel : key ≠ "label") (id : Wording)
    (m : Json.Members) : (completed id m).get? key = m.get? key := by
  have hmarked : Json.Members.get? (m.set "id" (.str id)) key = m.get? key := by
    rw [Json.Members.get?_set, if_neg (Ne.symm hid)]
  have hnamed : ∀ v, Json.Members.get? ((m.set "id" (.str id)).set "label" v) key = m.get? key := fun v => by
    rw [Json.Members.get?_set, if_neg (Ne.symm hlabel), hmarked]
  simp only [completed]
  split
  · split
    · exact hmarked
    · exact hnamed _
  · exact hnamed _

theorem ofMembers_of_other_fields {m m' : Json.Members} {s : Schema} (h : ofMembers m = .ok s) {v : Json}
    {l : List Field}
    (hother : ∀ {key : Wording}, key ≠ "fields" → m'.get? key = m.get? key) (hget : m'.get? "fields" = some v)
    (hfields : checkFields [.key "fields"] v = .ok l) : ofMembers m' = .ok { s with fields := l } := by
  obtain ⟨hname, -, hoperations, hpaginate⟩ := ofMembers_eq_ok_iff.1 h
  have hone : ∀ {key : String}, (key : Wording) ≠ "fields" → ∀ k ∈ [key], m'.get? k = m.get? k := fun hkey =>
    List.forall_mem_singleton.2 (hother hkey)
  refine ofMembers_eq_ok_iff.2 ⟨?_, ?_, ?_, ?_⟩
  · refine Check.required_congr Check.placeless_string (List.forall_mem_cons.2 ⟨?_, hone ?_⟩) hname
    · exact hother (by decide)
    · decide
  · rw [Check.optional_of_get? hget]
    exact hfields
  · rw [Check.optional, Check.lookup?_congr (hone (by decide))]
    exact hoperations
  · rw [Check.optional, Check.lookup?_congr (hone (by decide))]
    exact hpaginate

/-- **With other fields a schema is one exactly if these are fields.** -/
theorem exists_ofMembers_set_fields_iff {m : Json.Members} {v v' : Json} {s : Schema}
    (h : ofMembers (m.set "fields" v) = .ok s) : (∃ t, ofMembers (m.set "fields" v') = .ok t) ↔
      ∃ l, checkFields [.key "fields"] v' = .ok l := by
  have hfields := Json.Members.get?_set_self m "fields" v'
  constructor
  · rintro ⟨t, ht⟩
    exact ⟨_, fields_of_ofMembers hfields ht⟩
  · rintro ⟨l, hl⟩
    refine ⟨_, ofMembers_of_other_fields h (fun hkey => ?_) hfields hl⟩
    rw [Json.Members.get?_set, Json.Members.get?_set, if_neg (Ne.symm hkey), if_neg (Ne.symm hkey)]

theorem forall₂_completed : ∀ {l fields : List Json} {supply : Supply}, (completedAll supply l).1 = .ok fields →
    List.Forall₂ (fun v r => ∃ m id, v.record = .ok m ∧ r = .obj (completed id m)) l fields
  | [], _, _, h => by
    obtain rfl := Except.ok.inj h
    exact .nil
  | v :: rest, fields, supply, h => by
    unfold completedAll at h
    cases hrecord : v.record with
    | error e =>
      rw [hrecord] at h
      cases h
    | ok m =>
      have hrest := @forall₂_completed rest
      rw [hrecord] at h
      dsimp only at h
      generalize hresult : completedAll supply.draw.2 rest = result at h
      obtain ⟨e | l, after⟩ := result
      · cases h
      · obtain rfl := Except.ok.inj h
        exact .cons ⟨m, _, hrecord, rfl⟩ (hrest (congrArg Prod.fst hresult))

def fieldObjects (m : Json.Members) : List Json.Members :=
  match m.get? "fields" with
  | some (.arr items) => items.filterMap Json.members?
  | _ => []

theorem filterMap_rawFields {m : Json.Members} {raw : List Json} (h : rawFields m = .ok raw) :
    raw.filterMap Json.members? = fieldObjects m := by
  unfold rawFields at h
  unfold fieldObjects
  cases hget : m.get? "fields" with
  | none =>
    rw [hget] at h
    obtain rfl := Except.ok.inj h
    rfl
  | some v =>
    simp only [hget] at h
    split at h
    · cases v with
      | arr items => rw [Except.ok.inj h]
      | str w =>
        obtain rfl := Except.ok.inj h
        exact List.filterMap_eq_nil_iff.2 (List.forall_mem_map.2 (fun _ _ => rfl))
      | obj members =>
        obtain rfl := Except.ok.inj h
        exact List.filterMap_eq_nil_iff.2 (List.forall_mem_map.2 (fun _ _ => rfl))
      | _ => cases h
    · rename_i hfalsy
      obtain rfl := Except.ok.inj h
      cases v with
      | arr items =>
        cases items with
        | nil => rfl
        | cons => exact absurd rfl hfalsy
      | _ => rfl

theorem keyed_of_mem_fieldObjects {m f : Json.Members} (h : Json.Keyed (.obj m)) (hf : f ∈ fieldObjects m) :
    Json.Keyed (.obj f) := by
  unfold fieldObjects at hf
  split at hf
  · rename_i items hitems
    obtain ⟨v, hv, hmembers⟩ := List.mem_filterMap.1 hf
    rw [← Json.members?_eq_some_iff.1 hmembers]
    exact (h.of_get? hitems).of_mem hv
  · cases hf

end Schema

end Scaffold
