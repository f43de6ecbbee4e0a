import Scaffold.Proofs.Web.Request
/-!
# Proofs.Web.Writing — which answers can be written

What is answered must be a value that can be written (`Json.isWritable`): every number in it is finite, and no text in
it holds half of a pair.  The answer that shows a mockup fails exactly if one of the texts of its schema holds half of a
pair (`Response.status_session`), and the answer to a request that does not fit exactly if what was found at fault
cannot be shown (`Response.status_invalidRequest`).
-/
namespace Scaffold

namespace Json

/-! ## Values that can be written -/

/-- **The value can be written.** -/
def isWritable (v : Json) : Bool := v.isFinite && v.isWhole

theorem areFinite_eq_all : ∀ l : List Json, areFinite l = l.all isFinite
  | [] => rfl
  | v :: l => by rw [areFinite, List.all_cons, areFinite_eq_all l]

theorem membersFinite_eq_all : ∀ m : Members, membersFinite m = m.all (fun e => e.2.isFinite)
  | [] => rfl
  | (k, v) :: m => by rw [membersFinite, List.all_cons, membersFinite_eq_all m]

theorem areWhole_eq_all : ∀ l : List Json, areWhole l = l.all isWhole
  | [] => rfl
  | v :: l => by rw [areWhole, List.all_cons, areWhole_eq_all l]

theorem membersWhole_eq_all : ∀ m : Members, membersWhole m = m.all (fun e => e.1.isWhole && e.2.isWhole)
  | [] => rfl
  | (k, v) :: m => by rw [membersWhole, List.all_cons, membersWhole_eq_all m]

@[simp] theorem isWritable_null : null.isWritable = true := by simp [isWritable, isFinite, isWhole]

@[simp] theorem isWritable_bool (b : Bool) : (bool b).isWritable = true := by simp [isWritable, isFinite, isWhole]

@[simp] theorem isWritable_int (n : Int) : (int n).isWritable = true := by simp [isWritable, isFinite, isWhole]

@[simp] theorem isWritable_str (w : Wording) : (str w).isWritable = w.isWhole := by simp [isWritable, isFinite, isWhole]

@[simp] theorem isWritable_arr (l : List Json) : (arr l).isWritable = l.all isWritable := by
  rw [Bool.eq_iff_iff]
  simp [isWritable, isFinite, isWhole, areFinite_eq_all, areWhole_eq_all, forall_and]

@[simp] theorem isWritable_obj (m : Members) : (obj m).isWritable = m.all (fun e => e.1.isWhole && e.2.isWritable) := by
  rw [Bool.eq_iff_iff]
  simp only [isWritable, isFinite, isWhole, membersFinite_eq_all, membersWhole_eq_all, Bool.and_eq_true,
    List.all_eq_true, forall_and]
  exact and_left_comm

@[simp] theorem isWritable_ofWording? (w? : Option Wording) : (ofWording? w?).isWritable = w?.all Wording.isWhole := by
  cases w? <;> simp [ofWording?]

@[simp] theorem isWritable_ofText? (s? : Option String) : (ofText? s?).isWritable = true := by
  cases s? <;> simp [ofText?]

/-! ## Values without reserved members -/

theorem itemsWithoutReserved_eq_map : ∀ l : List Json, itemsWithoutReserved l = l.map withoutReserved
  | [] => rfl
  | v :: l => by rw [itemsWithoutReserved, List.map_cons, itemsWithoutReserved_eq_map l]

theorem withoutReserved_arr (l : List Json) : withoutReserved (.arr l) = .arr (l.map withoutReserved) := by
  rw [withoutReserved, itemsWithoutReserved_eq_map]

theorem withoutReserved_obj {m : Members} (h : ∀ key ∈ m.map Prod.fst, isReserved key = false) :
    withoutReserved (.obj m) = .obj (m.map (fun e => (e.1, withoutReserved e.2))) := by
  have hmembers : ∀ m : Members, (∀ key ∈ m.map Prod.fst, isReserved key = false) →
      membersWithoutReserved m = m.map (fun e => (e.1, withoutReserved e.2)) := by
    intro m hm
    induction m with
    | nil => rfl
    | cons e m ih =>
      obtain ⟨he, hm⟩ := List.forall_mem_cons.1 hm
      rw [membersWithoutReserved, he, ih hm]
      rfl
  rw [withoutReserved, hmembers m h]

@[simp] theorem withoutReserved_str (w : Wording) : withoutReserved (.str w) = .str w := by
  rw [withoutReserved]
  all_goals simp

end Json

/-! ## Issues -/

namespace Step

@[simp] theorem withoutReserved_toJson (s : Step) : s.toJson.withoutReserved = s.toJson := by
  cases s with
  | key name => exact Json.withoutReserved_str name
  | index n => rw [toJson, Json.withoutReserved] <;> simp

@[simp] theorem isWritable_toJson (s : Step) : s.toJson.isWritable = true := by
  cases s <;> simp [toJson]

end Step

namespace Fault

theorem withoutReserved_context? (f : Fault) {v : Json} (h : f.context? = some v) : v.withoutReserved = v := by
  unfold context? at h
  split at h <;> cases h <;> simp [Json.withoutReserved, Json.membersWithoutReserved, Json.isReserved] <;> decide

theorem isWritable_context? (f : Fault) : f.context?.all Json.isWritable = true := by
  cases f <;> simp [context?]

end Fault

namespace Issue

/-- **What was found at fault can be shown**, once reserved members are left out. -/
def isShowable (i : Issue) : Bool := i.input.withoutReserved.isWritable

theorem isWritable_toJson (i : Issue) : i.toJson.isWritable = i.input.isWritable := by
  simp [toJson]

theorem isWritable_withoutReserved (i : Issue) : i.toJsonWithContext.withoutReserved.isWritable = i.isShowable := by
  have hloc : (i.place.map Step.toJson).map Json.withoutReserved = i.place.map Step.toJson := by
    simp [Function.comp_def]
  have hcontext := i.fault.isWritable_context?
  unfold toJsonWithContext toJson Json.Members.also
  cases hv : i.fault.context? with
  | none =>
    dsimp only
    rw [Json.withoutReserved_obj (by simp; decide)]
    simp [Json.withoutReserved_arr, hloc, isShowable]
  | some v =>
    have hwritable : v.isWritable = true := by simpa [hv] using hcontext
    dsimp only
    rw [Json.withoutReserved_obj (by simp; decide)]
    simp [Json.withoutReserved_arr, hloc, isShowable, Function.comp_def, i.fault.withoutReserved_context? hv, hwritable]

end Issue

/-! ## The session -/

namespace Schema

def wordings (s : Schema) : List Wording :=
  s.entityName :: s.fields.flatMap (fun f => [f.id, f.name, f.label] ++ f.default?.toList)

theorem isWritable_toJson (s : Schema) : s.toJson.isWritable = s.wordings.all Wording.isWhole := by
  have hfield : ∀ f : Field, f.toJson.isWritable =
      ([f.id, f.name, f.label] ++ f.default?.toList).all Wording.isWhole := fun f => by
    cases hd : f.default? <;> simp [Field.toJson, hd]
  simp [toJson, wordings, Operations.toJson, List.all_flatMap, Function.comp_def, hfield]

end Schema

namespace Web
namespace Response

theorem status_ofJson_eq (status : Nat) (v : Json) :
    (ofJson status v).status = if v.isWritable then status else 500 := by
  unfold ofJson Json.isWritable
  split <;> rfl

/-- **The answer to a request that does not fit**: it is given if all that was found at fault can be shown. -/
theorem status_invalidRequest (issues : List Issue) :
    (invalidRequest issues).status = if issues.all Issue.isShowable then 422 else 500 := by
  have hwritable : (Json.withoutReserved (.obj [("detail", .arr (issues.map Issue.toJsonWithContext))])).isWritable =
      issues.all Issue.isShowable := by
    rw [Json.withoutReserved_obj (by simp; decide)]
    simp [Json.withoutReserved_arr, Function.comp_def, Issue.isWritable_withoutReserved]
  rw [invalidRequest, status_ofJson_eq, hwritable]

theorem status_invalidEdit (issues : List Issue) :
    (invalidEdit issues).status = if issues.all (fun i => i.input.isWritable) then 422 else 500 := by
  have hwritable : (Json.obj [("detail", .arr (issues.map Issue.toJson))]).isWritable =
      issues.all (fun i => i.input.isWritable) := by
    simp [Function.comp_def, Issue.isWritable_toJson]
  rw [invalidEdit, status_ofJson_eq, hwritable]

theorem status_session {s : Session} {schema : Schema} (hschema : s.schema? = some schema) (hnone : s.outcome? = none) :
    (session s).status = if schema.wordings.all Wording.isWhole then 200 else 500 := by
  have hwritable : s.toJson.isWritable = schema.wordings.all Wording.isWhole := by
    cases hbusy : s.phase.busy <;>
      simp [Session.toJson, Session.paths?, hschema, hnone, hbusy, Schema.isWritable_toJson]
  rw [session, status_ofJson_eq, hwritable]

end Response
end Web
end Scaffold
