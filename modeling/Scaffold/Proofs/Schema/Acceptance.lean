import Mathlib.Data.List.Nodup
import Mathlib.Data.List.Induction
import Scaffold.Artifact.Names
import Scaffold.Proofs.Naming.Identifier
import Scaffold.Schema.Validation
/-!
# Proofs.Schema.Acceptance — what a report without errors says

`Accepted` states in one place what the checks demand of a schema, and the report has no errors exactly then
(`errors_eq_nil_iff`).  In an accepted schema at most one field names the identity, so no data field does, and the data
fields are shown under distinct names.
-/
namespace Scaffold
namespace Schema

/-! ## Groups of names -/

theorem nameGroups_concat (names : List Wording) (name : Wording) : nameGroups (names ++ [name]) =
    (nameGroups names).set name.lower (((nameGroups names).get? name.lower).getD [] ++ [name]) := by
  simp [nameGroups]

/-- **A group holds the names of one lower case**, in their order. -/
theorem get?_nameGroups (key : Wording) (names : List Wording) : (nameGroups names).get? key =
    if key ∈ names.map Wording.lower then some (names.filter (fun n => n.lower = key)) else none := by
  induction names using List.reverseRecOn with
  | nil => rfl
  | append_singleton names name ih =>
    rw [nameGroups_concat, Entries.get?_set]
    by_cases hkey : name.lower = key
    · subst hkey
      rw [if_pos rfl, if_pos (by simp), ih, List.filter_append]
      split
      · simp
      · rename_i hnot
        have hnone : names.filter (fun n => decide (n.lower = name.lower)) = [] :=
          List.filter_eq_nil_iff.2 (fun n hn h => hnot (List.mem_map.2 ⟨n, hn, by simpa using h⟩))
        simp [hnone]
    · rw [if_neg hkey, ih]
      simp [hkey, Ne.symm hkey]

theorem nodup_nameGroups (names : List Wording) : ((nameGroups names).map Prod.fst).Nodup := by
  induction names using List.reverseRecOn with
  | nil => exact List.nodup_nil
  | append_singleton names name ih =>
    rw [nameGroups_concat]
    exact Entries.nodup_set _ _ _ ih

theorem mem_nameGroups (key : Wording) (group names : List Wording) : (key, group) ∈ nameGroups names ↔
    key ∈ names.map Wording.lower ∧ group = names.filter (fun n => n.lower = key) := by
  rw [← Entries.get?_eq_some_iff key group _ (nodup_nameGroups names), get?_nameGroups]
  split <;> simp_all [eq_comm]

theorem length_filter_lower (key : Wording) (names : List Wording) :
    (names.filter (fun n => n.lower = key)).length = (names.map Wording.lower).count key := by
  rw [List.count, List.countP_map, List.countP_eq_length_filter]
  rfl

theorem map_lower_name (s : Schema) :
    s.fields.map (fun f => f.name.lower) = (s.fields.map Field.name).map Wording.lower := by
  rw [List.map_map]
  rfl

theorem duplicateNameErrors_eq_nil_iff (s : Schema) :
    s.duplicateNameErrors = [] ↔ (s.fields.map (fun f => f.name.lower)).Nodup := by
  have hshort : s.duplicateNameErrors = [] ↔
      ∀ e ∈ nameGroups (s.fields.map Field.name), e.2.length ≤ 1 := by
    rw [duplicateNameErrors, List.filterMap_eq_nil_iff]
    refine forall₂_congr (fun e _ => ?_)
    split
    · rename_i h
      simp [h]
    · rename_i h
      rcases hg : e.2 with _ | ⟨a, _ | ⟨b, l⟩⟩
      · simp
      · simp
      · exact absurd hg (h a b l)
  rw [hshort, map_lower_name, List.nodup_iff_count_le_one]
  constructor
  · intro h key
    by_cases hkey : key ∈ (s.fields.map Field.name).map Wording.lower
    · rw [← length_filter_lower]
      exact h (key, _) ((mem_nameGroups key _ _).2 ⟨hkey, rfl⟩)
    · rw [List.count_eq_zero_of_not_mem hkey]
      exact Nat.zero_le 1
  · rintro h ⟨key, group⟩ he
    obtain ⟨-, rfl⟩ := (mem_nameGroups key group _).1 he
    rw [length_filter_lower]
    exact h key

/-! ## The other checks -/

theorem entityNameErrors_eq_nil_iff (s : Schema) :
    s.entityNameErrors = [] ↔ isIdentifier s.entityName = true := by
  unfold entityNameErrors
  split
  · rename_i hblank
    have hnot : ¬ isIdentifier s.entityName = true := fun h =>
      Naming.trim_ne_nil_of_isIdentifier h (List.isEmpty_iff.1 hblank)
    simp [hnot]
  · split <;> simp_all

theorem noFieldErrors_eq_nil_iff (s : Schema) : s.noFieldErrors = [] ↔ s.fields ≠ [] := by
  unfold noFieldErrors
  split <;> simp_all

theorem fieldNameErrors_eq_nil_iff (s : Schema) :
    s.fieldNameErrors = [] ↔ ∀ f ∈ s.fields, isIdentifier f.name = true := by
  simp [fieldNameErrors]

theorem defaultErrors_eq_nil_iff (s : Schema) :
    s.defaultErrors = [] ↔ ∀ f ∈ s.fields, f.namesIdentity = false → ∃ v, f.coerced = .ok v := by
  rw [defaultErrors, List.filterMap_eq_nil_iff]
  refine forall₂_congr (fun f _ => ?_)
  cases f.namesIdentity <;> cases f.coerced <;> simp

/-! ## Acceptance -/

/-- **What the checks demand**: names that are identifiers, at least one field, no two names that differ in case alone,
and defaults that their types take, the identity aside. -/
structure Accepted (s : Schema) : Prop where
  entity : isIdentifier s.entityName = true
  nonempty : s.fields ≠ []
  distinct : (s.fields.map (fun f => f.name.lower)).Nodup
  names : ∀ f ∈ s.fields, isIdentifier f.name = true
  defaults : ∀ f ∈ s.fields, f.namesIdentity = false → ∃ v, f.coerced = .ok v

/-- **A report has no errors exactly if the schema is accepted**, whatever the threshold. -/
theorem errors_eq_nil_iff (threshold : Int) (s : Schema) : (s.validate threshold).errors = [] ↔ s.Accepted := by
  simp only [validate, List.append_eq_nil_iff, entityNameErrors_eq_nil_iff, noFieldErrors_eq_nil_iff,
    duplicateNameErrors_eq_nil_iff, fieldNameErrors_eq_nil_iff, defaultErrors_eq_nil_iff]
  constructor
  · rintro ⟨⟨⟨⟨entity, nonempty⟩, distinct⟩, names⟩, defaults⟩
    exact ⟨entity, nonempty, distinct, names, defaults⟩
  · rintro ⟨entity, nonempty, distinct, names, defaults⟩
    exact ⟨⟨⟨⟨entity, nonempty⟩, distinct⟩, names⟩, defaults⟩

/-! ## Data fields -/

theorem mem_fields_of_mem_dataFields {s : Schema} {f : Field} (h : f ∈ s.dataFields) : f ∈ s.fields :=
  List.mem_of_mem_eraseP h

theorem namesIdentity_iff (f : Field) :
    f.namesIdentity = true ↔ f.name.lower = Wording.ofText (String.ofList Naming.identity) := by
  simp [Field.namesIdentity, Naming.namesIdentity]

theorem countP_namesIdentity (l : List Field) : l.countP Field.namesIdentity =
    (l.map (fun f => f.name.lower)).count (Wording.ofText (String.ofList Naming.identity)) := by
  rw [List.count, List.countP_map]
  refine List.countP_congr (fun f _ => ?_)
  rw [namesIdentity_iff, Function.comp_apply, beq_iff_eq]

/-- **Where at most one field names the identity, the data fields are those that do not name it.** -/
theorem eraseP_namesIdentity : ∀ {l : List Field}, l.countP Field.namesIdentity ≤ 1 →
    l.eraseP Field.namesIdentity = l.filter (fun f => !f.namesIdentity)
  | [], _ => rfl
  | f :: l, h => by
    cases hid : f.namesIdentity with
    | false =>
      rw [List.countP_cons_of_neg (by simp [hid])] at h
      rw [List.eraseP_cons_of_neg (by simp [hid]), eraseP_namesIdentity h]
      simp [hid]
    | true =>
      rw [List.countP_cons_of_pos hid] at h
      have hrest : ∀ g ∈ l, (!g.namesIdentity) = true := fun g hg => by
        have hnone := List.countP_eq_zero.1 (Nat.le_zero.1 (Nat.le_of_succ_le_succ h)) g hg
        simpa using hnone
      rw [List.eraseP_cons_of_pos hid]
      simp [hid, List.filter_eq_self.2 hrest]

namespace Accepted

variable {s : Schema}

theorem countP_le_one (h : s.Accepted) : s.fields.countP Field.namesIdentity ≤ 1 :=
  countP_namesIdentity s.fields ▸ List.nodup_iff_count_le_one.1 h.distinct _

theorem dataFields_eq (h : s.Accepted) : s.dataFields = s.fields.filter (fun f => !f.namesIdentity) :=
  eraseP_namesIdentity h.countP_le_one

theorem not_namesIdentity (h : s.Accepted) {f : Field} (hf : f ∈ s.dataFields) : f.namesIdentity = false := by
  rw [h.dataFields_eq, List.mem_filter] at hf
  simpa using hf.2

theorem coerced_eq_ok (h : s.Accepted) {f : Field} (hf : f ∈ s.dataFields) : ∃ v, f.coerced = .ok v :=
  h.defaults f (mem_fields_of_mem_dataFields hf) (h.not_namesIdentity hf)

theorem isIdentifier_name (h : s.Accepted) {f : Field} (hf : f ∈ s.dataFields) : isIdentifier f.name = true :=
  h.names f (mem_fields_of_mem_dataFields hf)

theorem ofText_shown (h : s.Accepted) {f : Field} (hf : f ∈ s.dataFields) :
    Wording.ofText f.name.shown = f.name :=
  Wording.ofText_shown (Wording.isWhole_of_isIdentifier (h.isIdentifier_name hf))

theorem shown_ne_identityName (h : s.Accepted) {f : Field} (hf : f ∈ s.dataFields) :
    f.name.shown ≠ identityName := by
  intro hid
  have hname : f.name = Wording.ofText identityName := by rw [← hid, h.ofText_shown hf]
  have hlower : f.namesIdentity = true := by
    rw [namesIdentity_iff, hname]
    decide
  rw [h.not_namesIdentity hf] at hlower
  cases hlower

theorem nodup_shown (h : s.Accepted) : (s.dataFields.map (fun f => f.name.shown)).Nodup := by
  have hlower : (s.dataFields.map (fun f => f.name.lower)).Nodup :=
    h.distinct.sublist (List.eraseP_sublist.map _)
  refine List.Nodup.of_map (fun t => (Wording.ofText t).lower) ?_
  rw [List.map_map]
  refine (List.map_congr_left (fun f hf => ?_)) ▸ hlower
  rw [Function.comp_apply, h.ofText_shown hf]

end Accepted
end Schema
end Scaffold
