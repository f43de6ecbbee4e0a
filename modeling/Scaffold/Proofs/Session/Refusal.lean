import Scaffold.Proofs.Session.Shape
/-!
# Proofs.Session.Refusal — what is refused, and when

A request, a revision or an edit either takes effect or fails at once, and then nothing has happened at the desk
(`step_of_failure`).  A request or an edit is refused as busy as long as a token is outstanding, and otherwise as
misplaced exactly in the steps in which it is not allowed (`refusal?_eq`).  Changes that are called like an operand of
the session's operations stand apart: they fail in every step (`failure?_of_not_wellNamed`).
-/
namespace Scaffold

open Sequence (thrown? thrown?_eq_some_iff thrown?_eq_none_iff)

/-! ## Names of changes -/

namespace Edit

/-- The operands of changing a field by way of the session: no change can have one of their names. -/
def operandNames : List String := ["self", "field_id", "fn"]

def WellNamed : Edit → Prop
  | .updateField _ changes => ∀ c ∈ changes, ∀ name ∈ operandNames, c.1 ≠ Wording.ofText name
  | _ => True

end Edit

theorem Operands.check_eq_ok_iff {o : Operands} {changes : Json.Members} :
    o.check changes = .ok () ↔ ∀ c ∈ changes, ∀ name ∈ o.names, c.1 ≠ Wording.ofText name := by
  have hnone : o.check changes = .ok () ↔ ∀ c ∈ changes, ¬ c.1.text?.any o.names.contains = true := by
    rw [← List.find?_eq_none, check]
    split <;> rename_i h <;> simp [h]
  rw [hnone]
  refine forall₂_congr (fun c _ => ?_)
  simp only [Option.any_eq_true, List.contains_iff_mem, Wording.text?_eq_some_iff, not_exists, not_and]
  exact ⟨fun h name hname heq => h name heq hname, fun h name heq hname => h name hname heq⟩

theorem Operands.exists_of_check_eq_error {o : Operands} {changes : Json.Members} {e : EditError}
    (h : o.check changes = .error e) : ∃ operation name, e = .operandTaken operation name := by
  unfold check at h
  split at h
  · exact ⟨_, _, (Except.error.inj h).symm⟩
  · cases h

namespace Session

theorem checkOperands_eq_ok_iff (e : Edit) : checkOperands e = .ok () ↔ e.WellNamed := by
  cases e with
  | updateField id changes =>
    rw [checkOperands, Sequence.mapError_eq_ok_iff, Sequence.forM_eq_ok_iff]
    simp [operands, Operands.check_eq_ok_iff, Edit.WellNamed, Edit.operandNames, forall_and, and_assoc]
  | _ => exact ⟨fun _ => trivial, fun _ => rfl⟩

theorem exists_of_checkOperands_eq_error {e : Edit} {failure : MockupError} (h : checkOperands e = .error failure) :
    ∃ operation name, failure = .edit (.operandTaken operation name) := by
  cases e with
  | updateField id changes =>
    obtain ⟨error, herror, rfl⟩ := Sequence.mapError_eq_error_iff.1 h
    obtain ⟨o, -, ho⟩ := Sequence.exists_of_forM_eq_error herror
    obtain ⟨operation, name, rfl⟩ := Operands.exists_of_check_eq_error ho
    exact ⟨operation, name, rfl⟩
  | _ => cases h

def verdict? (s : Session) (allowed : Phase) (busy misplaced : Refusal) : Option Refusal :=
  if s.phase.busy then some busy else if s.phase = allowed then none else some misplaced

theorem thrown?_dispatch (s : Session) (action : Action) : thrown? (s.dispatch action) =
    s.verdict? action.start (.busy action s.phase) (.misplaced action s.phase) := by
  unfold dispatch verdict?
  split
  · rfl
  · split <;> rfl

theorem thrown?_dispatchSchema {α : Type} {s : Session} (hwell : s.WellFormed) {action : Action}
    (haction : action.start = .mockup) (call : Nat → Schema → α) : thrown? (s.dispatchSchema action call) =
      s.verdict? action.start (.busy action s.phase) (.misplaced action s.phase) := by
  rw [← thrown?_dispatch]
  unfold dispatchSchema
  cases hd : s.dispatch action with
  | error refusal => rfl
  | ok r =>
    have hphase : s.phase = action.start := (dispatch_eq_ok_iff.1 (show s.dispatch action = .ok (r.1, r.2) from hd)).1
    cases hs : s.schema? with
    | none =>
      have := hwell.schema.1 hs
      simp [hphase, haction] at this
    | some schema => rfl

end Session

namespace MockupError

/-- The refusal by the step, if it is one. -/
def refusal? : MockupError → Option Refusal
  | .refused r => some r
  | .edit _ => none

theorem bind_refusal?_map_refused (r? : Option Refusal) : (r?.map MockupError.refused).bind refusal? = r? := by
  cases r? <;> rfl

end MockupError

theorem Session.refusal?_editMockup {s : Session} (hwell : s.WellFormed) (supply : Supply) (e : Edit) :
    (thrown? (s.editMockup supply e)).bind MockupError.refusal? =
      s.verdict? .mockup (.busyEdit s.phase) (.misplacedEdit s.phase) := by
  unfold editMockup verdict?
  by_cases hbusy : s.phase.busy = true
  · rw [if_pos hbusy, if_pos hbusy]
    rfl
  · rw [if_neg hbusy, if_neg hbusy]
    by_cases hphase : s.phase = .mockup
    · obtain ⟨schema, hschema⟩ := hwell.exists_schema hphase
      rw [if_pos hphase, hphase, hschema]
      cases h : schema.apply supply e <;> simp [h, thrown?, MockupError.refusal?]
    · rw [if_neg hphase]
      split
      · exact absurd ‹_› hphase
      · rfl

/-! ## Failures at once -/

namespace Event

/-- **The step in which a request or an edit is allowed.** -/
def allowed? : Event → Option Phase
  | .submit .. => some Action.submit.start
  | .regenerate _ => some Action.regenerate.start
  | .confirm => some Action.confirm.start
  | .edit _ => some .mockup
  | _ => none

def WellNamed : Event → Prop
  | .edit e => e.WellNamed
  | _ => True

end Event

namespace Workflow

/-- **How an event fails at once**, if it does. -/
def failure? (w : Workflow) : Event → Option MockupError
  | .submit prompt hints => (thrown? (w.submit prompt hints)).map .refused
  | .regenerate feedback => (thrown? (w.regenerate feedback)).map .refused
  | .confirm => (thrown? w.confirm).map .refused
  | .revise => (thrown? w.revise).map .refused
  | .edit e => thrown? (w.edit e)
  | _ => none

/-- **The refusal that an event meets with**, if the step does not allow it. -/
def refusal? (w : Workflow) (e : Event) : Option Refusal := (w.failure? e).bind MockupError.refusal?

theorem thrown?_dispatched {α : Type} (w : Workflow) (action : Action) (token : α → Nat)
    (r : Except Refusal (Session × α)) : thrown? (w.dispatched action token r) = thrown? r :=
  Sequence.thrown?_map _ _

theorem thrown?_edit {w : Workflow} {e : Edit} (h : e.WellNamed) :
    thrown? (w.edit e) = thrown? (w.session.editMockup w.supply e) := by
  rw [edit, Sequence.thrown?_map, Session.edit, (Session.checkOperands_eq_ok_iff e).2 h]
  rfl

theorem refusal?_eq {w : Workflow} (hwell : w.session.WellFormed) {e : Event} (hnamed : e.WellNamed) {phase : Phase}
    (hallowed : e.allowed? = some phase) : ∃ busy misplaced : Refusal, busy.isBusy = true ∧ misplaced.isBusy = false ∧
      w.refusal? e = w.session.verdict? phase busy misplaced := by
  have hrefused : ∀ {α : Type} {r : Except Refusal α}, w.failure? e = (thrown? r).map .refused →
      w.refusal? e = thrown? r := fun h => by
    rw [refusal?, h, MockupError.bind_refusal?_map_refused]
  cases e with
  | submit prompt hints =>
    obtain rfl := Option.some.inj hallowed
    refine ⟨.busy .submit w.session.phase, .misplaced .submit w.session.phase, rfl, rfl, (hrefused rfl).trans ?_⟩
    rw [submit, thrown?_dispatched, Session.submit, Sequence.thrown?_map]
    exact Session.thrown?_dispatch w.session .submit
  | regenerate feedback =>
    obtain rfl := Option.some.inj hallowed
    refine ⟨.busy .regenerate w.session.phase, .misplaced .regenerate w.session.phase, rfl, rfl,
      (hrefused rfl).trans ?_⟩
    rw [regenerate, thrown?_dispatched]
    exact Session.thrown?_dispatchSchema hwell rfl _
  | confirm =>
    obtain rfl := Option.some.inj hallowed
    refine ⟨.busy .confirm w.session.phase, .misplaced .confirm w.session.phase, rfl, rfl, (hrefused rfl).trans ?_⟩
    rw [confirm, thrown?_dispatched]
    exact Session.thrown?_dispatchSchema hwell rfl _
  | edit e =>
    obtain rfl := Option.some.inj hallowed
    refine ⟨.busyEdit w.session.phase, .misplacedEdit w.session.phase, rfl, rfl, ?_⟩
    rw [refusal?, failure?, thrown?_edit hnamed]
    exact Session.refusal?_editMockup hwell w.supply e
  | startOver | revise | endDraft | endReport => cases hallowed

theorem failure?_of_not_wellNamed {w : Workflow} {e : Edit} (h : ¬ e.WellNamed) :
    ∃ operation name, w.failure? (.edit e) = some (.edit (.operandTaken operation name)) := by
  cases hc : Session.checkOperands e with
  | ok _ => exact absurd ((Session.checkOperands_eq_ok_iff e).1 hc) h
  | error failure =>
    obtain ⟨operation, name, rfl⟩ := Session.exists_of_checkOperands_eq_error hc
    refine ⟨operation, name, ?_⟩
    rw [failure?, edit, Sequence.thrown?_map, Session.edit, hc]
    rfl

end Workflow

namespace Desk

theorem step_of_failure {d : Desk} {e : Event} {failure : MockupError} (h : d.workflow.failure? e = some failure) :
    d.step e = d := by
  cases e with
  | submit | regenerate | confirm | revise =>
    obtain ⟨r, hr, -⟩ := Option.map_eq_some_iff.1 h
    rw [step, thrown?_eq_some_iff.1 hr]
    rfl
  | edit e =>
    rw [step, thrown?_eq_some_iff.1 h]
    rfl
  | startOver | endDraft | endReport => cases h

/-- **As long as a token is outstanding everything is refused as busy, and otherwise what the step does not allow is
refused as misplaced.** -/
theorem refused_iff {d : Desk} (htracked : d.Tracked) (hwell : d.session.WellFormed) {e : Event} (hnamed : e.WellNamed)
    {phase : Phase} (hallowed : e.allowed? = some phase) :
    ((∃ r, d.workflow.refusal? e = some r ∧ r.isBusy = true) ↔ d.session.outstanding?.isSome = true) ∧
    ((∃ r, d.workflow.refusal? e = some r ∧ r.isBusy = false) ↔
      d.session.outstanding? = none ∧ d.session.phase ≠ phase) := by
  obtain ⟨busy, misplaced, hb, hm, hr⟩ := Workflow.refusal?_eq (w := d.workflow) hwell hnamed hallowed
  have hbusy : d.workflow.session.phase.busy = d.session.outstanding?.isSome := htracked.busy
  rw [hr, Session.verdict?, hbusy]
  cases hout : d.session.outstanding? with
  | none => by_cases hphase : d.workflow.session.phase = phase <;> simp_all [session]
  | some token => simp [hb]

end Desk
end Scaffold
