import Scaffold.Proofs.Artifact.Compilation
import Scaffold.Proofs.Session.Shape
import Scaffold.Web.Response
/-!
# Proofs.Session.Report — a report is about the schema beside it

Confirming takes the schema as it was then, and much can happen before the report comes.  Where reports come from
validation and compilation, the report that is shown is nevertheless that of the schema that is shown
(`report_describes_schema`): the schema of a live call cannot change, since the mockup cannot be edited meanwhile.  A
report of success then stays until the session starts over.
-/
namespace Scaffold

/-- **Reports come from validation and compilation**, or are broken off by a fault. -/
def Event.Own (threshold : Int) : Event → Prop
  | .endReport call pipeline =>
    pipeline.run call.schema = (Pipeline.standard threshold).run call.schema ∨
      ∃ c, pipeline.run call.schema = .error (.crash c)
  | _ => True

theorem Pipeline.standard_eq_ok_iff {threshold : Int} {s : Schema} {o : Outcome} :
    (Pipeline.standard threshold).run s = .ok o ↔ s.run threshold = .ok o := by
  simp only [Pipeline.standard, Sequence.mapError_eq_ok_iff]

namespace Schema

theorem compile_of_success {threshold : Int} {s : Schema} {o : Outcome} (h : s.run threshold = .ok o)
    (hsuccess : o.success = true) : ∃ b, s.compile = .ok b ∧ o.files? = some b := by
  by_cases herrors : (s.validate threshold).errors = []
  · rw [run_of_accepted herrors] at h
    obtain ⟨b, hb, rfl⟩ := Sequence.map_eq_ok_iff.1 h
    exact ⟨b, hb, rfl⟩
  · rw [run_of_errors herrors] at h
    obtain rfl := Except.ok.inj h
    cases hsuccess

end Schema

namespace Session

def Describes (s : Session) (threshold : Int) : Prop :=
  ∃ schema outcome, s.schema? = some schema ∧ s.outcome? = some outcome ∧ schema.run threshold = .ok outcome

theorem endDraft_phase_ne_report {s : Session} {call : DraftCall} (hlive : s.outstanding? = some call.token)
    (answer : Except TaskFailure Schema) : (s.endDraft call answer).phase ≠ .report := by
  rw [endDraft_of_live hlive]
  rcases answer with (e | c) | schema <;> cases call.task <;> simp [applyDraft, Task.action, Action.start]

theorem endReport_report {s : Session} {call : ReportCall} (hlive : s.outstanding? = some call.token)
    {answer : Except ReportFailure Outcome} (hphase : (s.endReport call answer).phase = .report) :
    ∃ outcome, answer = .ok outcome ∧ (s.endReport call answer).outcome? = some outcome ∧
      (s.endReport call answer).schema? = s.schema? := by
  rw [endReport_of_live hlive] at hphase ⊢
  rcases answer with (reason | c) | outcome
  · cases hphase
  · cases hphase
  · exact ⟨outcome, rfl, rfl, rfl⟩

end Session

namespace Desk

/-- **What ties reports to the schema**: a live call for one has the schema of the session, and a report that has come
describes it. -/
structure Described (threshold : Int) (d : Desk) : Prop where
  snapshot : ∀ call, .report call ∈ d.calls → d.session.outstanding? = some call.token →
    d.session.schema? = some call.schema
  report : d.session.phase = .report → d.session.Describes threshold

theorem Described.of_idle {threshold : Int} {d : Desk} (hout : d.session.outstanding? = none)
    (hphase : d.session.phase ≠ .report) : d.Described threshold :=
  ⟨fun _ _ hlive => (by rw [hout] at hlive; cases hlive), fun h => absurd h hphase⟩

theorem Described.dropped {threshold : Int} {d : Desk} {w : Workflow} (h : d.Described threshold) {calls : List Call}
    (hsub : calls ⊆ d.calls) (hs : w.session = d.session) : Described threshold ⟨w, calls⟩ := by
  replace hs : session ⟨w, calls⟩ = d.session := hs
  refine ⟨fun call hcall => ?_, ?_⟩ <;> rw [hs]
  · exact h.snapshot call (hsub hcall)
  · exact h.report

theorem Described.reportEnded {threshold : Int} {d : Desk} (h : d.Described threshold) {call : ReportCall}
    {pipeline : Pipeline} (hown : (Event.endReport call pipeline).Own threshold) (hcall : .report call ∈ d.calls) :
    Described threshold ⟨(d.workflow.endReport pipeline call).1, d.calls.erase (.report call)⟩ := by
  have hanswer : ∀ outcome, pipeline.run call.schema = .ok outcome → call.schema.run threshold = .ok outcome := by
    intro outcome hrun
    rcases hown with hstandard | ⟨c, hcrash⟩
    · exact Pipeline.standard_eq_ok_iff.1 (hstandard.symm.trans hrun)
    · rw [hcrash] at hrun
      cases hrun
  have hs : ∀ calls, session ⟨(d.workflow.endReport pipeline call).1, calls⟩ =
    d.session.endReport call (pipeline.run call.schema) := fun _ => rfl
  by_cases hlive : d.session.outstanding? = some call.token
  · have hnone := (Session.endReport_released hlive (pipeline.run call.schema)).outstanding
    refine ⟨fun c _ hout => ?_, fun hreport => ?_⟩
    · rw [hs, hnone] at hout
      cases hout
    · rw [hs] at hreport ⊢
      obtain ⟨outcome, hrun, houtcome, hschema⟩ := Session.endReport_report hlive hreport
      exact ⟨call.schema, outcome, hschema.trans (h.snapshot call hcall hlive), houtcome, hanswer outcome hrun⟩
  · exact h.dropped List.erase_subset (Session.endReport_of_stale hlive _)

theorem described_effect {threshold : Int} {d d' : Desk} {e : Event} (hown : e.Own threshold) (htracked : d.Tracked)
    (h : d.Described threshold) (he : d.Effect e d') : d'.Described threshold := by
  cases he with
  | refused => exact h
  | @begun _ w call hphase htoken hschema hsession _ =>
    have hs : session ⟨w, call :: d.calls⟩ = d.session.engaged call.action := hsession
    refine ⟨fun c hc hlive => ?_, fun hreport => ?_⟩ <;> rw [hs] at *
    · rcases List.mem_cons.1 hc with hc | hc
      · exact hschema c hc.symm
      · -- the token of an older call is not the new one
        have hle : c.token ≤ d.session.issued := htracked.le_issued _ hc
        have := Option.some.inj hlive
        omega
    · exact absurd hreport (by cases call.action <;> simp [Session.engaged, Action.during])
  | @draftEnded call interpreter hcall =>
    by_cases hlive : d.session.outstanding? = some call.token
    · exact .of_idle (Session.endDraft_released hlive _).outstanding (Session.endDraft_phase_ne_report hlive _)
    · exact h.dropped List.erase_subset (Session.endDraft_of_stale hlive _)
  | @reportEnded call pipeline hcall => exact h.reportEnded hown hcall
  | startedOver => exact .of_idle rfl (by simp [session, Workflow.startOver, Session.startOver])
  | @revised w hphase _ hsession _ =>
    have hnone := htracked.outstanding_eq_none (by rw [hphase]; rfl)
    refine .of_idle ?_ ?_ <;> rw [show session ⟨w, d.calls⟩ = _ from hsession]
    · exact hnone
    · simp
  | @edited _ w _ _ hphase _ _ hsession =>
    have hnone := htracked.outstanding_eq_none (by rw [hphase]; rfl)
    refine .of_idle ?_ ?_ <;> rw [show session ⟨w, d.calls⟩ = _ from hsession]
    · exact hnone
    · simp [hphase]

theorem described_run (threshold : Int) (id? : Option String) (events : List Event)
    (hown : ∀ e ∈ events, e.Own threshold) : ((start id?).run events).Described threshold := by
  refine (run_induction (fun d => d.Tracked ∧ d.Described threshold) (Event.Own threshold) (fun d e hown h => ?_) events
    _ hown ⟨tracked_start id?, ?_⟩).2
  · exact ⟨h.1.effect (effect_step d e), described_effect hown h.1 h.2 (effect_step d e)⟩
  · obtain ⟨id, hs⟩ := session_start id?
    exact .of_idle (by rw [hs]) (by rw [hs]; simp)

/-- **A report of success ends only by starting over.** -/
theorem final_effect {d d' : Desk} {e : Event} {outcome : Outcome} (htracked : d.Tracked) (hover : e ≠ .startOver)
    (hphase : d.session.phase = .report) (houtcome : d.session.outcome? = some outcome)
    (hsuccess : outcome.success = true) (he : d.Effect e d') : d'.session = d.session := by
  have hnone := htracked.outstanding_eq_none (by rw [hphase]; rfl)
  have hstale : ∀ token, d.session.outstanding? ≠ some token := fun token => by rw [hnone]; simp
  cases he with
  | refused => rfl
  | @begun _ _ call hstart _ _ _ _ =>
    rw [hphase] at hstart
    cases h : call.action <;> rw [h] at hstart <;> cases hstart
  | draftEnded _ => exact Session.endDraft_of_stale (hstale _) _
  | reportEnded _ => exact Session.endReport_of_stale (hstale _) _
  | startedOver => exact absurd rfl hover
  | revised _ hfailed _ _ =>
    rw [houtcome, Option.any_some, hsuccess] at hfailed
    cases hfailed
  | edited hmockup _ _ _ =>
    rw [hphase] at hmockup
    cases hmockup

/-- **In every report the outcome is that of the schema beside it**, and the paths are those of the schema that was
compiled.  From a report of success the session stays as it is until it starts over. -/
theorem report_describes_schema (threshold : Int) (id? : Option String) (events : List Event)
    (hown : ∀ e ∈ events, e.Own threshold) :
    let d := (start id?).run events
    d.session.phase = .report → ∃ schema outcome,
      d.session.schema? = some schema ∧ d.session.outcome? = some outcome ∧ schema.run threshold = .ok outcome ∧
      d.session.paths? = (if outcome.success then some schema.paths else none) ∧
      (outcome.success = true →
        (∃ b, schema.compile = .ok b ∧ outcome.files? = some b) ∧
        ∀ more : List Event, (∀ e ∈ more, e ≠ .startOver) → (d.run more).session = d.session) := by
  intro d hphase
  obtain ⟨schema, outcome, hschema, houtcome, hrun⟩ := (described_run threshold id? events hown).report hphase
  refine ⟨schema, outcome, hschema, houtcome, hrun, ?_, fun hsuccess => ⟨Schema.compile_of_success hrun hsuccess, ?_⟩⟩
  · rw [Session.paths?, houtcome, hschema]
  · intro more hmore
    refine (run_induction (fun d' => d'.Tracked ∧ d'.session = d.session) (fun e => e ≠ .startOver)
      (fun d' e hover h => ⟨h.1.effect (effect_step d' e), ?_⟩) more d hmore ⟨tracked_run id? events, rfl⟩).2
    exact (final_effect h.1 hover (h.2 ▸ hphase) (h.2 ▸ houtcome) hsuccess (effect_step d' e)).trans h.2

def note : Schema :=
  { entityName := "Note", fields := [{ id := Supply.idOf 1, name := "title", label := "Title", required := true }] }

def noteEvents : List Event :=
  [.submit "notes" {}, .endDraft ⟨1, .interpret "notes" {}⟩ { answer := fun _ => .ok (.schema note) },
    .confirm, .endReport ⟨2, note⟩ (.standard defaultThreshold)]

theorem report_of_note : (∀ e ∈ noteEvents, e.Own defaultThreshold) ∧
    let d := (start (some "s")).run noteEvents
    d.session.phase = .report ∧ d.session.schema? = some note ∧ ∃ outcome,
      d.session.outcome? = some outcome ∧ note.run defaultThreshold = .ok outcome ∧
      d.session.paths? = some note.paths ∧ (∃ b, note.compile = .ok b ∧ outcome.files? = some b) ∧
      ∀ more : List Event, (∀ e ∈ more, e ≠ .startOver) → (d.run more).session = d.session := by
  have hown : ∀ e ∈ noteEvents, e.Own defaultThreshold := by simp [noteEvents, Event.Own]
  have hphase : ((start (some "s")).run noteEvents).session.phase = .report := by decide +kernel
  have hnote : ((start (some "s")).run noteEvents).session.schema? = some note := by decide +kernel
  have hsuccess : ((start (some "s")).run noteEvents).session.outcome?.map Outcome.success = some true := by
    decide +kernel
  obtain ⟨schema, outcome, hschema, houtcome, hrun, hpaths, hfinal⟩ :=
    report_describes_schema defaultThreshold (some "s") noteEvents hown hphase
  obtain rfl := Option.some.inj (hnote.symm.trans hschema)
  rw [houtcome, Option.map_some, Option.some.injEq] at hsuccess
  rw [hsuccess, if_pos rfl] at hpaths
  exact ⟨hown, hphase, hnote, outcome, houtcome, hrun, hpaths, hfinal hsuccess⟩

end Desk
end Scaffold
