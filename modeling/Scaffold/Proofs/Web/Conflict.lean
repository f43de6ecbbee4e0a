import Scaffold.Interpreter.Template
import Scaffold.Proofs.Web.Request
/-!
# Proofs.Web.Conflict — answers that say that nothing was done

If the event that a request asks for fails at once, the answer says how, and the workflow is the one before; if it does
not, the answer shows the session, at once or when a call ends.  So an answer is a conflict exactly if the event is
refused by the step (`status_eq_conflict_iff`), and whatever is answered with 409, 404 or 422 has left everything as it
was (`refused_without_effect`).
-/
namespace Scaffold
namespace Web

/-! ## What is answered -/

namespace Response

/-- **The answer says that nothing was done**: a conflict, something that is not there, or something that does not
fit. -/
def Declines (r : Response) : Prop := r.status ∈ [409, 404, 422]

theorem not_declines_session (s : Session) : ¬ (session s).Declines := by
  rcases status_ofJson 200 s.toJson with h | h <;> simp [Declines, session, h]

theorem not_declines_failed : ¬ failed.Declines := by
  simp [Declines, failed]

theorem status_ofMockupError_iff (failure : MockupError) :
    (ofMockupError failure).status = 409 ↔ ∃ r, failure.refusal? = some r := by
  rcases failure with r | (_ | _ | issues | _)
  · simp [ofMockupError, conflict, MockupError.refusal?]
  · simp [ofMockupError, failed, MockupError.refusal?]
  · simp [ofMockupError, MockupError.refusal?]
  · rcases status_ofJson 422 (.obj [("detail", .arr (issues.map Issue.toJson))]) with h | h <;>
      simp [ofMockupError, invalidEdit, MockupError.refusal?, h]
  · simp [ofMockupError, failed, MockupError.refusal?]

end Response

namespace Server

/-! ## What fails at once -/

theorem react_of_failure {w : Workflow} {e : Event} {failure : MockupError} (h : w.failure? e = some failure) :
    react w e = .answered w (.ofMockupError failure) := by
  cases e with
  | submit | regenerate | confirm | revise =>
    obtain ⟨r, hr, rfl⟩ := Option.map_eq_some_iff.1 h
    rw [react, Sequence.thrown?_eq_some_iff.1 hr]
    rfl
  | edit e => rw [react, edited, Sequence.thrown?_eq_some_iff.1 h]
  | startOver | endDraft | endReport => cases h

theorem not_declines_react {w w' : Workflow} {e : Event} {r : Response} (h : w.failure? e = none)
    (hr : react w e = .answered w' r) : ¬ r.Declines := by
  have hsession : ∀ {s : Session} {v : Workflow}, Reception.answered v (.session s) = .answered w' r → ¬ r.Declines :=
    fun {s} {v} heq => by
      obtain ⟨-, rfl⟩ := Reception.answered.inj heq
      exact Response.not_declines_session s
  cases e with
  | submit | regenerate | confirm =>
    obtain ⟨v, hv⟩ := Sequence.thrown?_eq_none_iff.1 (Option.map_eq_none_iff.1 h)
    rw [react, hv] at hr
    cases hr
  | revise =>
    obtain ⟨v, hv⟩ := Sequence.thrown?_eq_none_iff.1 (Option.map_eq_none_iff.1 h)
    rw [react, hv] at hr
    exact hsession hr
  | edit e =>
    obtain ⟨v, hv⟩ := Sequence.thrown?_eq_none_iff.1 h
    rw [react, edited, hv] at hr
    exact hsession hr
  | startOver | endDraft | endReport => exact hsession hr

/-! ## A request from beginning to end -/

theorem not_declines_endDraft (w : Workflow) (interpreter : Interpreter) (call : DraftCall) :
    ¬ (endDraft w interpreter call).2.Declines := by
  unfold endDraft
  split
  · exact Response.not_declines_session _
  · exact Response.not_declines_failed

theorem not_declines_endReport (w : Workflow) (pipeline : Pipeline) (call : ReportCall) :
    ¬ (endReport w pipeline call).2.Declines := by
  unfold endReport
  split
  · exact Response.not_declines_session _
  · simp [Response.Declines]
  · exact Response.not_declines_failed

theorem receive_of_declines {w : Workflow} {interpreter : Interpreter} {pipeline : Pipeline} {q : Request}
    (h : (handle w interpreter pipeline q).2.Declines) :
    receive w q = .answered w (handle w interpreter pipeline q).2 := by
  cases hreceive : receive w q with
  | drafting v call =>
    rw [handle, hreceive] at h
    exact absurd h (not_declines_endDraft v interpreter call)
  | reporting v call =>
    rw [handle, hreceive] at h
    exact absurd h (not_declines_endReport v pipeline call)
  | answered v r =>
    have hhandle : handle w interpreter pipeline q = (v, r) := by rw [handle, hreceive]
    rw [hhandle] at h ⊢
    cases hq : requested? q with
    | none =>
      obtain ⟨r', hr', -⟩ := receive_of_not_requested hq w
      rw [hr'] at hreceive
      cases hreceive
      rfl
    | some e =>
      rw [receive_of_requested hq] at hreceive
      cases hfailure : w.failure? e with
      | none => exact absurd h (not_declines_react hfailure hreceive)
      | some failure =>
        rw [react_of_failure hfailure] at hreceive
        cases hreceive
        rfl

/-- **A conflict is a refusal by the step**, and every refusal of what a request asks for is one. -/
theorem status_eq_conflict_iff {w : Workflow} {interpreter : Interpreter} {pipeline : Pipeline} {q : Request} :
    (handle w interpreter pipeline q).2.status = 409 ↔ ∃ e r, requested? q = some e ∧ w.refusal? e = some r := by
  constructor
  · intro h
    have hreceive : receive w q = .answered w (handle w interpreter pipeline q).2 :=
      receive_of_declines (by simp [Response.Declines, h])
    cases hq : requested? q with
    | none =>
      obtain ⟨r, hr, hstatus⟩ := receive_of_not_requested hq w
      rw [hr] at hreceive
      exact absurd (Reception.answered.inj hreceive).2 (fun heq => hstatus (heq ▸ h))
    | some e =>
      rw [receive_of_requested hq] at hreceive
      cases hfailure : w.failure? e with
      | none =>
        refine absurd ?_ (not_declines_react hfailure hreceive)
        simp [Response.Declines, h]
      | some failure =>
        rw [react_of_failure hfailure] at hreceive
        rw [← (Reception.answered.inj hreceive).2, Response.status_ofMockupError_iff] at h
        obtain ⟨r, hr⟩ := h
        exact ⟨e, r, rfl, by rw [Workflow.refusal?, hfailure, Option.bind_some, hr]⟩
  · rintro ⟨e, r, hq, hr⟩
    obtain ⟨failure, hfailure, hrefusal⟩ := Option.bind_eq_some_iff.1 hr
    have hhandle : handle w interpreter pipeline q = (w, .ofMockupError failure) := by
      rw [handle, receive_of_requested hq, react_of_failure hfailure]
    rw [hhandle]
    exact Response.status_ofMockupError_iff failure |>.2 ⟨r, hrefusal⟩

end Server

/-- **What is refused has no effect.**  After any run an event that fails at once leaves the desk as it was: no call is
begun for an interpreter or a pipeline.  A request or an edit is refused as busy exactly as long as a token is
outstanding, and as misplaced exactly if none is and the step is not its own; only changes that are called like an
operand fail otherwise, in every step.  A request that is answered with 409, 404 or 422 is answered at once with the
workflow as it was, the answer is 409 exactly if the event that is asked for is refused by the step, and no request asks
for changes with such names. -/
theorem refused_without_effect (id? : Option String) (events : List Event) (interpreter : Interpreter)
    (pipeline : Pipeline) :
    let d := (Desk.start id?).run events
    (∀ e failure, d.workflow.failure? e = some failure → d.step e = d) ∧
    (∀ e phase, e.allowed? = some phase → e.WellNamed →
      ((∃ r, d.workflow.refusal? e = some r ∧ r.isBusy = true) ↔ d.session.outstanding?.isSome = true) ∧
      ((∃ r, d.workflow.refusal? e = some r ∧ r.isBusy = false) ↔
        d.session.outstanding? = none ∧ d.session.phase ≠ phase)) ∧
    (∀ e : Edit, ¬ e.WellNamed →
      ∃ operation name, d.workflow.failure? (.edit e) = some (.edit (.operandTaken operation name))) ∧
    ∀ q, let answer := Server.handle d.workflow interpreter pipeline q
      (answer.2.Declines → answer.1 = d.workflow ∧ Server.receive d.workflow q = .answered d.workflow answer.2) ∧
      (answer.2.status = 409 ↔ ∃ e r, Server.requested? q = some e ∧ d.workflow.refusal? e = some r) ∧
      ∀ e, Server.requested? q = some e → e.WellNamed := by
  intro d
  obtain ⟨htracked, hwell⟩ : d.Tracked ∧ d.session.WellFormed := Desk.sound_of_start id? events
  refine ⟨fun e failure h => Desk.step_of_failure h, fun e phase hallowed hnamed => ?_, fun e h => ?_, fun q => ?_⟩
  · exact Desk.refused_iff htracked hwell hnamed hallowed
  · exact Workflow.failure?_of_not_wellNamed h
  · refine ⟨fun h => ?_, Server.status_eq_conflict_iff, fun e h => Server.wellNamed_of_requested h⟩
    have hreceive := Server.receive_of_declines h
    exact ⟨by rw [Server.handle, hreceive], hreceive⟩

def drafting : Desk := (Desk.start (some "s")).run [.submit "p" {}]

def confirmation : Request := ⟨"POST", "/v1/session/confirm".toList, []⟩

theorem confirmation_refused_while_drafting :
    drafting.session.outstanding? = some 1 ∧ Server.requested? confirmation = some .confirm ∧
      drafting.step .confirm = drafting ∧
      let answer := Server.handle drafting.workflow Template.interpreter (.standard defaultThreshold) confirmation
      answer.2.status = 409 ∧ answer.1 = drafting.workflow ∧
        Server.receive drafting.workflow confirmation = .answered drafting.workflow answer.2 := by
  have hout : drafting.session.outstanding? = some 1 := by rfl
  have hasked : Server.requested? confirmation = some .confirm := by rfl
  have hrefused : drafting.workflow.refusal? .confirm = some (.busy .confirm (.generating .prompt)) := by rfl
  have hfailure : drafting.workflow.failure? .confirm = some (.refused (.busy .confirm (.generating .prompt))) := by rfl
  obtain ⟨hkept, -, -, hanswer⟩ :=
    refused_without_effect (some "s") [.submit "p" {}] Template.interpreter (.standard defaultThreshold)
  obtain ⟨hdeclined, hconflict, -⟩ := hanswer confirmation
  have hstatus := hconflict.2 ⟨_, _, hasked, hrefused⟩
  have hsame := hdeclined (by rw [Response.Declines, hstatus]; decide)
  exact ⟨hout, hasked, hkept _ _ hfailure, hstatus, hsame.1, hsame.2⟩

/-- **An edit is not always refused as busy while a token is outstanding**: with a change that is called like an operand
it is not refused at all, but fails. -/
theorem operandNamed_not_refused : drafting.session.outstanding?.isSome = true ∧
    drafting.workflow.refusal? (.edit (.updateField "1" [("fn", .int 1)])) = none ∧
    drafting.workflow.failure? (.edit (.updateField "1" [("fn", .int 1)])) =
      some (.edit (.operandTaken "WorkflowController._edit" "fn")) := by
  refine ⟨rfl, ?_, ?_⟩ <;> rfl

end Web
end Scaffold
