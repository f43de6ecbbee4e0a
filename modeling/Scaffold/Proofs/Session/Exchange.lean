import Scaffold.Proofs.Schema.Exchange
import Scaffold.Proofs.Schema.Update
import Scaffold.Session.Workflow
/-!
# Proofs.Session.Exchange — edits of the mockup that do not depend on their order

Where the mockup can be edited, an edit does with the session what it does with the schema; everywhere else it is
refused, whatever the edit before did.  So independent edits can be exchanged in a session as they can on a schema
(`independent_edits_swap`).
-/
namespace Scaffold

open Schema (edited)
open Sequence (Swaps Within tried thrown? within_of_map)

namespace Workflow

def holding (w : Workflow) (p : Schema × Supply) : Workflow :=
  { w with session := { w.session with schema? := some p.1 }, supply := p.2 }

variable {w : Workflow} {e e' : Edit}

theorem edit_holding (hphase : w.session.phase = .mockup) (he : Session.checkOperands e = .ok ())
    (p : Schema × Supply) : (w.holding p).edit e = ((edited e p).mapError MockupError.edit).map w.holding := by
  have hbusy : ¬ w.session.phase.busy = true := by
    rw [hphase]
    exact Bool.false_ne_true
  have hedit : ∀ supply, Session.edit { w.session with schema? := some p.1 } supply e =
      ((p.1.apply supply e).mapError MockupError.edit).map
        (fun q => ({ w.session with schema? := some q.1 }, q.2)) := by
    intro supply
    simp only [Session.edit, he, Session.editMockup, if_neg hbusy]
    split
    · rename_i heq
      obtain rfl := Option.some.inj heq
      cases p.1.apply supply e <;> rfl
    · rename_i hnot
      exact absurd rfl (hnot p.1 hphase)
  unfold edit edited
  rw [show (w.holding p).session = { w.session with schema? := some p.1 } from rfl, hedit,
    show (w.holding p).supply = p.2 from rfl]
  cases p.1.apply p.2 e <;> rfl

theorem exists_edit_eq_error (h : ∀ schema, w.session.phase = .mockup → w.session.schema? ≠ some schema) (e : Edit) :
    ∃ failure, w.edit e = .error failure := by
  cases hedit : w.edit e with
  | error failure => exact ⟨failure, rfl⟩
  | ok w' =>
    obtain ⟨r, hr, -⟩ := Sequence.map_eq_ok_iff.1 hedit
    unfold Session.edit Session.editMockup at hr
    obtain ⟨-, -, hr⟩ := Sequence.bind_eq_ok_iff.1 hr
    split at hr
    · cases hr
    · split at hr
      · rename_i schema hphase hschema
        exact absurd hschema (h schema hphase)
      · cases hr

/-- **Independent edits of the mockup can be exchanged.** -/
theorem swaps_edit (h : e.Independent e') (w : Workflow) : Swaps (fun w => w.edit e) (fun w => w.edit e') w := by
  have hrefused : ∀ {e : Edit} {failure : MockupError}, Session.checkOperands e = .error failure →
      ∀ w : Workflow, w.edit e = .error failure := by
    intro e failure he w
    simp only [edit, Session.edit, he]
    rfl
  cases he : Session.checkOperands e with
  | error failure => exact Sequence.swaps_of_refused (hrefused he)
  | ok u =>
    cases he' : Session.checkOperands e' with
    | error failure => exact (Sequence.swaps_of_refused (hrefused he')).symm
    | ok u' =>
      by_cases hmockup : ∃ schema, w.session.phase = .mockup ∧ w.session.schema? = some schema
      · obtain ⟨schema, hphase, hschema⟩ := hmockup
        have hw : w.holding (schema, w.supply) = w := by
          unfold holding
          rw [← hschema]
        have hwithin : ∀ {e : Edit}, Session.checkOperands e = .ok () → ∀ p,
            Within w.holding (fun p => (edited e p).mapError MockupError.edit) (fun w => w.edit e) p := by
          intro e he p
          exact within_of_map (edit_holding hphase he p)
        have hswaps := (Schema.swaps_of_independent h schema w.supply).mapError MockupError.edit
        rw [← hw]
        exact hswaps.within (hwithin he) (hwithin he')
      · have hnone : ∀ schema, w.session.phase = .mockup → w.session.schema? ≠ some schema := by
          intro schema hphase hschema
          exact hmockup ⟨schema, hphase, hschema⟩
        obtain ⟨failure, hfailure⟩ := exists_edit_eq_error hnone e
        obtain ⟨failure', hfailure'⟩ := exists_edit_eq_error hnone e'
        exact Sequence.swaps_of_error hfailure hfailure'

end Workflow

/-- **Independent edits can be exchanged.**  Of two edits that are at different things, or both switch an operation,
both orders give the same schema; and if one is refused, it is refused alike in both orders, and the other has the
effect that it has by itself.  The same holds of a session in any step. -/
theorem Edit.independent_edits_swap {e e' : Edit} (h : e.Independent e') :
    (∀ (s : Schema) (supply : Supply), Swaps (edited e) (edited e') (s, supply)) ∧
      ∀ w : Workflow, Swaps (fun w => w.edit e) (fun w => w.edit e') w :=
  ⟨Schema.swaps_of_independent h, Workflow.swaps_edit h⟩

open Schema (titled relabel relabelled)

def Schema.headed : Schema := { relabelled (some "-") with fields := (relabelled (some "-")).fields.take 1 }

/-- **A new label for the title, and the stock removed**: both orders leave the title with its new label.  An id that is
not there is missed in both orders. -/
theorem Edit.relabelled_and_removed :
    (updateField "1" relabel).Independent (removeField "2") ∧ (updateField "1" relabel).Independent (removeField "3") ∧
    tried (edited (removeField "2")) (tried (edited (updateField "1" relabel)) (titled "-", {})) = (Schema.headed, {}) ∧
    tried (edited (updateField "1" relabel)) (tried (edited (removeField "2")) (titled "-", {})) = (Schema.headed, {}) ∧
    thrown? (edited (removeField "3") (titled "-", {})) = some (.fieldNotFound "3") ∧
    thrown? (edited (removeField "3") (tried (edited (updateField "1" relabel)) (titled "-", {}))) =
      some (.fieldNotFound "3") := by
  have hstock : (updateField "1" relabel).Independent (removeField "2") := ⟨_, _, rfl, rfl, by decide⟩
  have hnone : (updateField "1" relabel).Independent (removeField "3") := ⟨_, _, rfl, rfl, by decide⟩
  have hmissed : thrown? (edited (removeField "3") (titled "-", {})) = some (.fieldNotFound "3") := by rfl
  have hleft : tried (edited (removeField "2")) (tried (edited (updateField "1" relabel)) (titled "-", {})) =
      (Schema.headed, {}) := by decide +kernel
  have hswaps := (independent_edits_swap hstock).1 (titled "-") {}
  have hswaps' := (independent_edits_swap hnone).1 (titled "-") {}
  exact ⟨hstock, hnone, hleft, hswaps.same.symm.trans hleft, hmissed, hswaps'.second.trans hmissed⟩

end Scaffold
