import Scaffold.Proofs.Artifact.Names
import Scaffold.Proofs.Interpreter.Template
import Scaffold.Proofs.Session.Report
/-!
# Proofs.Session.Offline — sessions that need no service

A request that its step allows gives a call, and a live call that ends with an answer is applied.  With the interpreter
that needs no service there always is an answer, so a new session comes to its mockup and from there to its report,
whatever the prompt and the hints are (`offline_session_reaches_report`).
-/
namespace Scaffold

namespace Workflow

variable {w : Workflow}

theorem submit_of_prompt (hphase : w.session.phase = .prompt) (prompt : String) (hints : Hints) : ∃ w',
    w.submit prompt hints = .ok (w', ⟨w.session.issued + 1, .interpret prompt hints⟩) ∧
      w'.session = w.session.engaged .submit ∧ w'.supply = w.supply := by
  have hsubmit : w.session.submit prompt hints =
      .ok (w.session.engaged .submit, ⟨w.session.issued + 1, .interpret prompt hints⟩) :=
    Session.submit_eq_ok_iff.2 ⟨hphase, rfl, rfl⟩
  rw [submit, dispatched, hsubmit]
  exact ⟨_, rfl, rfl, rfl⟩

theorem endDraft_of_ok {interpreter : Interpreter} (call : DraftCall) {schema : Schema} {supply : Supply}
    (hlive : w.session.outstanding? = some call.token)
    (hdraft : draft w.supply (interpreter.answer call.task) = (.ok schema, supply)) : ∃ w',
    w.endDraft interpreter call = (w', .ok true) ∧
      w'.session = { w.session with outstanding? := none, phase := .mockup, schema? := some schema } := by
  rw [endDraft, hdraft]
  refine ⟨_, Prod.ext rfl ?_, Session.endDraft_of_live hlive _⟩
  simp [Session.draftResult, Session.isLive, hlive]

theorem confirm_of_mockup {schema : Schema} (hphase : w.session.phase = .mockup)
    (hschema : w.session.schema? = some schema) : ∃ w',
    w.confirm = .ok (w', ⟨w.session.issued + 1, schema⟩) ∧ w'.session = w.session.engaged .confirm := by
  have hconfirm := Session.confirm_eq_ok_iff.2 ⟨hphase, rfl, schema, hschema, rfl⟩
  rw [confirm, dispatched, hconfirm]
  exact ⟨_, rfl, rfl⟩

theorem endReport_of_ok {pipeline : Pipeline} (call : ReportCall) {outcome : Outcome}
    (hlive : w.session.outstanding? = some call.token) (hrun : pipeline.run call.schema = .ok outcome) : ∃ w',
    w.endReport pipeline call = (w', .ok (some outcome)) ∧
      w'.session = { w.session with outstanding? := none, phase := .report, outcome? := some outcome } := by
  rw [endReport, hrun]
  refine ⟨_, Prod.ext rfl ?_, Session.endReport_of_live hlive _⟩
  simp [Session.reportResult, Session.isLive, hlive]

end Workflow

namespace Template

theorem draft_starter (supply : Supply) (prompt : String) (hints : Hints) :
    draft supply (interpreter.answer (.interpret prompt hints)) = (.ok (drawnSchema supply hints), supply.after 5) := by
  show draft supply (.ok (.data (starter hints))) = _
  rw [draft, Schema.create, createFromData_starter]

/-- **The way from the prompt to the report**, without a refusal or a fault: the prompt is taken, a draft is applied and
is the mockup, it can be confirmed, and the report on it is shown. -/
def ComesToReport (threshold : Int) (prompt : String) (hints : Hints) (w : Workflow) : Prop :=
  ∃ generating mockup confirming report draftCall reportCall outcome,
    w.submit prompt hints = .ok (generating, draftCall) ∧
    generating.endDraft interpreter draftCall = (mockup, .ok true) ∧
    mockup.session.phase = .mockup ∧ mockup.session.schema? = some reportCall.schema ∧
    mockup.confirm = .ok (confirming, reportCall) ∧
    confirming.endReport (.standard threshold) reportCall = (report, .ok (some outcome)) ∧
    report.session.phase = .report ∧ report.session.outcome? = some outcome ∧
    StarterReport threshold hints reportCall.schema outcome

theorem comesToReport (threshold : Int) (prompt : String) (hints : Hints) {w : Workflow}
    (hphase : w.session.phase = .prompt) : ComesToReport threshold prompt hints w := by
  obtain ⟨generating, hsubmit, hgenerating, hsupply⟩ := Workflow.submit_of_prompt hphase prompt hints
  obtain ⟨mockup, hended, hmockup⟩ := generating.endDraft_of_ok ⟨w.session.issued + 1, .interpret prompt hints⟩
    (by rw [hgenerating]; rfl) (draft_starter generating.supply prompt hints)
  have hshown : mockup.session.schema? = some (drawnSchema generating.supply hints) := by rw [hmockup]
  obtain ⟨confirming, hconfirm, hconfirming⟩ := mockup.confirm_of_mockup (by rw [hmockup]) hshown
  obtain ⟨outcome, hrun, hstarter⟩ := exists_run_drawnSchema threshold generating.supply hints
  obtain ⟨report, hreported, hreport⟩ := confirming.endReport_of_ok
    ⟨mockup.session.issued + 1, drawnSchema generating.supply hints⟩ (by rw [hconfirming]; rfl)
    (Pipeline.standard_eq_ok_iff.2 hrun)
  exact ⟨generating, mockup, confirming, report, _, _, outcome, hsubmit, hended, by rw [hmockup], hshown, hconfirm,
    hreported, by rw [hreport], by rw [hreport], hstarter⟩

/-- **Sessions without a service always come to their report.**  Whatever the prompt and the hints, the report of a new
session is a success with all artifacts exactly if the name of the entity, which is the hint without white space around
it or the name for want of one, is an identifier.  The threshold where nothing else is set leaves room for the starter
fields, so that nothing but a want of operations is warned of. -/
theorem offline_session_reaches_report (id? : Option String) (prompt : String) (hints : Hints) (threshold : Int) :
    5 ≤ defaultThreshold ∧
    (∃ stripped, (hints.entityName?.getD "").Stripped stripped ∧
      entityName hints = if stripped.isEmpty then (defaultEntity : Wording) else stripped) ∧
    ComesToReport threshold prompt hints (.start id?) := by
  obtain ⟨id, hstart⟩ := Desk.session_start id?
  have hphase : (Workflow.start id?).session.phase = .prompt := congrArg Session.phase hstart
  exact ⟨by decide, entityName_eq hints, comesToReport threshold prompt hints hphase⟩

def loanHints : Hints := { entityName? := some (" Loan\t" : Wording), operations := .ofList [] }

/-- **A report on loans comes with all artifacts**, and with the warning that nothing can be done. -/
theorem loans_reach_report : ∃ (confirming report : Workflow) (call : ReportCall) (outcome : Outcome),
    confirming.endReport (.standard defaultThreshold) call = (report, .ok (some outcome)) ∧
    report.session.phase = .report ∧ outcome.success = true ∧ (∃ b, outcome.files? = some b) ∧
    outcome.warnings = [.noOperations] := by
  obtain ⟨hthreshold, -, _, _, confirming, report, _, call, outcome, -, -, -, -, -, hended, hphase, -, hreport⟩ :=
    offline_session_reaches_report none "loans" loanHints defaultThreshold
  have hname : (entityName loanHints).In Naming.identifiers := Wording.ofText_in_identifiers "Loan" (by decide)
  have hsuccess := hreport.success.2 hname
  obtain ⟨-, b, -, hfiles⟩ := hreport.made hsuccess
  exact ⟨confirming, report, call, outcome, hended, hphase, hsuccess, ⟨b, hfiles⟩,
    hreport.idle hthreshold (fun op => by cases op <;> rfl)⟩

end Template
end Scaffold
