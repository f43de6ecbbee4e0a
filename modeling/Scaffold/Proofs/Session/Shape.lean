import Scaffold.Proofs.Session.Tokens
/-!
# Proofs.Session.Shape — which parts of a session belong to which step

A session has five parts that change: its step, the schema, the outcome, the error and the outstanding token.
`WellFormed` says which of them are there in which step.  Every operation keeps it, given that a live call is of the
kind the session waits for, so it holds after every run (`wellFormed_run`).
-/
namespace Scaffold
namespace Session

/-- **The parts of a session fit its step.** -/
structure WellFormed (s : Session) : Prop where
  /-- A token is outstanding exactly while the session is generating or confirming. -/
  outstanding : s.outstanding?.isSome = true ↔ (∃ origin, s.phase = .generating origin) ∨ s.phase = .confirming
  /-- There is an origin exactly while the session is generating. -/
  origin : s.phase.origin?.isSome = true ↔ ∃ origin, s.phase = .generating origin
  /-- An origin is the prompt or the mockup. -/
  originPhase : ∀ origin, s.phase.origin? = some origin → origin.phase = .prompt ∨ origin.phase = .mockup
  /-- There is no schema exactly at the prompt and while the first draft is made. -/
  schema : s.schema? = none ↔ s.phase = .prompt ∨ s.phase = .generating .prompt
  /-- There is an outcome exactly at the report. -/
  outcome : s.outcome?.isSome = true ↔ s.phase = .report
  /-- An error stands only at the prompt and at the mockup. -/
  error : s.error?.isSome = true → s.phase = .prompt ∨ s.phase = .mockup

theorem origin?_isSome_iff (p : Phase) : p.origin?.isSome = true ↔ ∃ origin, p = .generating origin := by
  cases p <;> simp [Phase.origin?]

theorem origin_phase (o : Origin) : o.phase = .prompt ∨ o.phase = .mockup := by
  cases o <;> simp [Origin.phase]

theorem WellFormed.of {s : Session}
    (outstanding : s.outstanding?.isSome = true ↔ (∃ origin, s.phase = .generating origin) ∨ s.phase = .confirming)
    (schema : s.schema? = none ↔ s.phase = .prompt ∨ s.phase = .generating .prompt)
    (outcome : s.outcome?.isSome = true ↔ s.phase = .report)
    (error : s.error?.isSome = true → s.phase = .prompt ∨ s.phase = .mockup) : s.WellFormed :=
  ⟨outstanding, origin?_isSome_iff s.phase, fun o _ => origin_phase o, schema, outcome, error⟩

theorem wellFormed_new (id : String) (issued : Nat) : WellFormed { id := id, issued := issued } := by
  refine .of ?_ ?_ ?_ ?_ <;> simp

namespace WellFormed

variable {s : Session}

theorem startOver (s : Session) : s.startOver.WellFormed := wellFormed_new s.id s.issued

theorem engaged (h : s.WellFormed) {action : Action} (hphase : s.phase = action.start) :
    (s.engaged action).WellFormed := by
  have hschema := h.schema
  have houtcome := h.outcome
  rw [hphase] at hschema houtcome
  cases action <;> refine .of ?_ ?_ ?_ ?_ <;> simp_all [Session.engaged, Action.during, Action.start]

theorem endDraft (h : s.WellFormed) {call : DraftCall}
    (hduring : s.outstanding? = some call.token → s.phase = call.task.action.during)
    (answer : Except TaskFailure Schema) : (s.endDraft call answer).WellFormed := by
  by_cases hlive : s.outstanding? = some call.token
  · have hschema := h.schema
    have houtcome := h.outcome
    have herror := h.error
    rw [hduring hlive] at hschema houtcome herror
    rw [endDraft_of_live hlive]
    generalize call.task.action = action at *
    rcases answer with (e | c) | schema
    · cases action <;> refine .of ?_ ?_ ?_ ?_ <;> simp_all [applyDraft, Action.during, Action.start]
    · cases action <;> refine .of ?_ ?_ ?_ ?_ <;> simp_all [applyDraft, Action.during, Action.start]
    · cases action <;> refine .of ?_ ?_ ?_ ?_ <;> simp_all [applyDraft, Action.during]
  · rwa [endDraft_of_stale hlive]

theorem endReport (h : s.WellFormed) {call : ReportCall}
    (hduring : s.outstanding? = some call.token → s.phase = .confirming)
    (answer : Except ReportFailure Outcome) : (s.endReport call answer).WellFormed := by
  by_cases hlive : s.outstanding? = some call.token
  · have hschema := h.schema
    have houtcome := h.outcome
    have herror := h.error
    rw [hduring hlive] at hschema houtcome herror
    rw [endReport_of_live hlive]
    rcases answer with (reason | c) | outcome <;> refine .of ?_ ?_ ?_ ?_ <;> simp_all [applyReport]
  · rwa [endReport_of_stale hlive]

theorem exists_schema (h : s.WellFormed) (hphase : s.phase = .mockup) : ∃ schema, s.schema? = some schema := by
  refine Option.ne_none_iff_exists'.1 (fun hnone => ?_)
  rcases h.schema.1 hnone with hp | hp <;> rw [hphase] at hp <;> cases hp

theorem revised (h : s.WellFormed) (hphase : s.phase = .report) :
    WellFormed { s with outcome? := none, phase := .mockup } := by
  have hout := h.outstanding
  have hschema := h.schema
  rw [hphase] at hout hschema
  refine .of ?_ ?_ ?_ ?_ <;> simp_all

theorem edited (h : s.WellFormed) (hphase : s.phase = .mockup) (after : Schema) :
    WellFormed { s with schema? := some after } := by
  have hout := h.outstanding
  have houtcome := h.outcome
  rw [hphase] at hout houtcome
  refine .of ?_ ?_ ?_ ?_ <;> simp_all

end WellFormed
end Session

namespace Desk

theorem wellFormed_effect {d d' : Desk} {e : Event} (htracked : d.Tracked) (h : d.session.WellFormed)
    (he : d.Effect e d') : d'.session.WellFormed := by
  cases he with
  | refused => exact h
  | @begun _ w call hphase _ _ hsession _ =>
    show w.session.WellFormed
    rw [hsession]
    exact h.engaged hphase
  | @draftEnded call interpreter hcall => exact h.endDraft (htracked.during _ hcall) _
  | @reportEnded call pipeline hcall => exact h.endReport (htracked.during _ hcall) _
  | startedOver => exact .startOver d.session
  | @revised w hphase _ hsession _ =>
    show w.session.WellFormed
    rw [hsession]
    exact h.revised hphase
  | @edited _ w _ after hphase _ _ hsession =>
    show w.session.WellFormed
    rw [hsession]
    exact h.edited hphase after

theorem wellFormed_start (id? : Option String) : (start id?).session.WellFormed := by
  obtain ⟨id, hs⟩ := session_start id?
  rw [hs]
  exact Session.wellFormed_new id 0

theorem sound_run {d : Desk} (htracked : d.Tracked) (hwell : d.session.WellFormed) (events : List Event) :
    (d.run events).Tracked ∧ (d.run events).session.WellFormed :=
  run_induction (fun d => d.Tracked ∧ d.session.WellFormed) (fun _ => True)
    (fun d e _ h => ⟨h.1.effect (effect_step d e), wellFormed_effect h.1 h.2 (effect_step d e)⟩) events d
    (fun _ _ => trivial) ⟨htracked, hwell⟩

theorem sound_of_start (id? : Option String) (events : List Event) :
    ((start id?).run events).Tracked ∧ ((start id?).run events).session.WellFormed :=
  sound_run (tracked_start id?) (wellFormed_start id?) events

/-- **After every run the parts of the session fit its step**, whatever was begun, ended, revised and edited in
between. -/
theorem wellFormed_run (id? : Option String) (events : List Event) :
    ((start id?).run events).session.WellFormed := by
  obtain ⟨-, hwell⟩ := sound_of_start id? events
  exact hwell

end Desk
end Scaffold
