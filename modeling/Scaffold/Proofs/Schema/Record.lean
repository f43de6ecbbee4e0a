import Scaffold.Proofs.Schema.Create
import Scaffold.Proofs.Sequence
/-!
# Proofs.Schema.Record — data that no schema can be made from

The fields of a schema are made from records: objects, or values that hold pairs of a key and a value one after the
other (`IsRecord`).  Making a schema breaks off exactly if what stands under `fields` holds nothing one after the other,
or holds something that is no record (`exists_createFromData_eq_shape_iff`); everything else that does not fit is an
issue.
-/
namespace Scaffold

namespace Json

/-- A key and a value, one after the other.  A list or an object is no key. -/
def IsPair (e : Json) : Prop := ∃ k v, e.items? = some [k, v] ∧ (∀ l, k ≠ .arr l) ∧ ∀ m, k ≠ .obj m

/-- **A record of keyed values**: an object, or pairs one after the other. -/
def IsRecord (v : Json) : Prop := (∃ m, v = .obj m) ∨ ∃ l, v.items? = some l ∧ ∀ e ∈ l, e.IsPair

theorem isPair_iff {e k v : Json} (h : e.items? = some [k, v]) :
    e.IsPair ↔ (∀ l, k ≠ .arr l) ∧ ∀ m, k ≠ .obj m := by
  unfold IsPair
  rw [h]
  constructor
  · rintro ⟨_, _, heq, hk⟩
    cases heq
    exact hk
  · exact fun hk => ⟨k, v, rfl, hk⟩

theorem not_isPair {e : Json} (h : ∀ k v, e.items? ≠ some [k, v]) : ¬ e.IsPair :=
  fun ⟨k, v, heq, _⟩ => h k v heq

theorem exists_pairMembers_eq_ok_iff : ∀ (l : List Json) (made : Json.Members) (n : Nat),
    (∃ m, pairMembers made n l = .ok m) ↔ ∀ e ∈ l, e.IsPair
  | [], made, n => by simp [pairMembers]
  | e :: rest, made, n => by
    have htail := exists_pairMembers_eq_ok_iff rest
    rw [List.forall_mem_cons]
    -- the cases of the definition: no sequence, a text as key, a list or an object as key, another key, no two elements
    unfold pairMembers
    split
    · rename_i hitems
      simp [not_isPair (e := e) (by simp [hitems])]
    · rename_i k v hitems
      simp [isPair_iff hitems, htail]
    · rename_i l v hitems
      simp [isPair_iff hitems]
    · rename_i m v hitems
      simp [isPair_iff hitems]
    · rename_i k v hstr harr hobj hitems
      have hpair : e.IsPair := (isPair_iff hitems).2 ⟨fun l hk => harr l hk, fun m hk => hobj m hk⟩
      simp [hpair, htail]
    · rename_i l hstr harr hobj hpair hitems
      simp [not_isPair (e := e) (fun k v heq => hpair k v (Option.some.inj (hitems.symm.trans heq)))]

/-- **What has a record is one.** -/
theorem exists_record_eq_ok_iff (v : Json) : (∃ m, v.record = .ok m) ↔ v.IsRecord := by
  by_cases hobj : ∃ m, v = .obj m
  · obtain ⟨m, rfl⟩ := hobj
    exact ⟨fun _ => .inl ⟨m, rfl⟩, fun _ => ⟨m, rfl⟩⟩
  · have hrecord : v.record = v.items.bind (pairMembers [] 0) := by
      cases v with
      | obj m => exact absurd ⟨m, rfl⟩ hobj
      | _ => rfl
    rw [hrecord, IsRecord, items]
    cases hitems : v.items? with
    | none => simp [hobj, Except.bind]
    | some l => simpa [hobj, Except.bind] using exists_pairMembers_eq_ok_iff l [] 0

end Json

namespace Schema

theorem exists_completedAll_eq_ok_iff : ∀ (l : List Json) (supply : Supply),
    (∃ fields, (completedAll supply l).1 = .ok fields) ↔ ∀ v ∈ l, v.IsRecord
  | [], supply => by simp [completedAll]
  | v :: rest, supply => by
    rw [List.forall_mem_cons, ← Json.exists_record_eq_ok_iff, completedAll]
    cases hrecord : v.record with
    | error e => simp
    | ok m =>
      simp only [← exists_completedAll_eq_ok_iff rest supply.draw.2]
      cases hrest : completedAll supply.draw.2 rest with
      | mk result after => cases result <;> simp

theorem exists_rawFields_eq_error_iff (m : Json.Members) : (∃ e, rawFields m = .error e) ↔
    ∃ v, m.get? "fields" = some v ∧ v.truthy = true ∧ v.items? = none := by
  unfold rawFields
  cases hfields : m.get? "fields" with
  | none => simp
  | some v => cases htruthy : v.truthy <;> cases hitems : v.items? <;> simp [htruthy, hitems, Json.items]

theorem exists_mem_rawFields_iff (m : Json.Members) (P : Json → Prop) : (∃ l, rawFields m = .ok l ∧ ∃ e ∈ l, P e) ↔
    ∃ v, m.get? "fields" = some v ∧ v.truthy = true ∧ ∃ l, v.items? = some l ∧ ∃ e ∈ l, P e := by
  unfold rawFields
  cases hfields : m.get? "fields" with
  | none => simp
  | some v => cases htruthy : v.truthy <;> cases hitems : v.items? <;> simp [htruthy, hitems, Json.items]

theorem exists_createFromData_eq_shape_iff (supply : Supply) (m : Json.Members) :
    (∃ e, (createFromData supply (.obj m)).1 = .error (.shape e)) ↔
      (∃ e, rawFields m = .error e) ∨ ∃ l, rawFields m = .ok l ∧ ∃ e ∈ l, ¬ e.IsRecord := by
  have hdata := fromData supply (.obj m)
  generalize createFromData supply (.obj m) = result at hdata
  -- the values that the fields are made from are all records if they were completed
  have hrecords : ∀ {raw records after}, rawFields m = .ok raw → completedAll supply raw = (.ok records, after) →
      ¬ ((∃ e, rawFields m = .error e) ∨ ∃ l, rawFields m = .ok l ∧ ∃ e ∈ l, ¬ e.IsRecord) := by
    intro raw records after hraw hcompleted
    have hall := (exists_completedAll_eq_ok_iff raw supply).1 ⟨records, congrArg Prod.fst hcompleted⟩
    simpa [hraw] using hall
  cases hdata with
  | noRecord hrecord => cases hrecord
  | noFields hrecord hraw =>
    obtain rfl := Except.ok.inj hrecord
    exact iff_of_true ⟨_, rfl⟩ (.inl ⟨_, hraw⟩)
  | @noRecords _ raw _ _ hrecord hraw hcompleted =>
    obtain rfl := Except.ok.inj hrecord
    have hnot : ¬ ∀ v ∈ raw, v.IsRecord := mt (exists_completedAll_eq_ok_iff raw supply).2 (by simp [hcompleted])
    exact iff_of_true ⟨_, rfl⟩ (.inr ⟨_, hraw, by simpa using hnot⟩)
  | refused hrecord hraw hcompleted =>
    obtain rfl := Except.ok.inj hrecord
    exact iff_of_false (by simp) (hrecords hraw hcompleted)
  | made hrecord hraw hcompleted =>
    obtain rfl := Except.ok.inj hrecord
    exact iff_of_false (by simp) (hrecords hraw hcompleted)

end Schema
end Scaffold
