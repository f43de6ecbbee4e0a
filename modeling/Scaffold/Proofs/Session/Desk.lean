import Scaffold.Proofs.Sequence
import Scaffold.Session.Workflow
/-!
# Proofs.Session.Desk — a session and its calls in flight

A desk is a workflow together with the calls that were begun and have not ended.  Calls may end in any order and in any
way, long after the session has moved on.  `Effect` says once what an event can do at a desk, and every event has such
an effect (`effect_step`); what holds of every run is derived from that (`run_induction`).
-/
namespace Scaffold

inductive Call where
  | draft (call : DraftCall)
  | report (call : ReportCall)
deriving DecidableEq, Repr

namespace Call

def token : Call → Nat
  | .draft call => call.token
  | .report call => call.token

def action : Call → Action
  | .draft call => call.task.action
  | .report _ => .confirm

end Call

/-- **What happens at a desk.**  A call ends with whatever answer an interpreter or a pipeline has for it. -/
inductive Event where
  | submit (prompt : String) (hints : Hints)
  | regenerate (feedback : String)
  | confirm
  | endDraft (call : DraftCall) (interpreter : Interpreter)
  | endReport (call : ReportCall) (pipeline : Pipeline)
  | startOver
  | revise
  | edit (e : Edit)

/-- **A workflow and the calls that have not ended.** -/
structure Desk where
  workflow : Workflow
  calls : List Call := []

namespace Desk

def session (d : Desk) : Session := d.workflow.session

def begun {α : Type} (d : Desk) (wait : α → Call) : Except Refusal (Workflow × α) → Desk
  | .ok (w, call) => ⟨w, wait call :: d.calls⟩
  | .error _ => d

def changed {ε : Type} (d : Desk) : Except ε Workflow → Desk
  | .ok w => { d with workflow := w }
  | .error _ => d

/-- **The desk after an event.**  Only a call that was begun can end, and only once. -/
def step (d : Desk) : Event → Desk
  | .submit prompt hints => d.begun .draft (d.workflow.submit prompt hints)
  | .regenerate feedback => d.begun .draft (d.workflow.regenerate feedback)
  | .confirm => d.begun .report d.workflow.confirm
  | .endDraft call interpreter =>
    if .draft call ∈ d.calls then ⟨(d.workflow.endDraft interpreter call).1, d.calls.erase (.draft call)⟩ else d
  | .endReport call pipeline =>
    if .report call ∈ d.calls then ⟨(d.workflow.endReport pipeline call).1, d.calls.erase (.report call)⟩ else d
  | .startOver => { d with workflow := d.workflow.startOver }
  | .revise => d.changed d.workflow.revise
  | .edit e => d.changed (d.workflow.edit e)

def run (d : Desk) (events : List Event) : Desk := events.foldl step d

def start (id? : Option String) : Desk := { workflow := .start id? }

theorem session_start (id? : Option String) : ∃ id, (start id?).session = { id := id } := by
  simp only [session, start, Workflow.start, Session.start]
  split
  · split
    · exact ⟨_, rfl⟩
    · exact ⟨_, rfl⟩
  · exact ⟨_, rfl⟩

/-- **What every event keeps, every run keeps.**  Only events that are `allowed` need to keep it, where no others
come. -/
theorem run_induction (P : Desk → Prop) (allowed : Event → Prop)
    (hstep : ∀ (d : Desk) (e : Event), allowed e → P d → P (d.step e)) :
    ∀ (events : List Event) (d : Desk), (∀ e ∈ events, allowed e) → P d → P (d.run events)
  | [], _, _, h => h
  | e :: events, d, hall, h =>
    run_induction P allowed hstep events (d.step e) (fun e' he' => hall e' (List.mem_cons_of_mem e he'))
      (hstep d e (hall e List.mem_cons_self) h)

end Desk

/-! ## What the session accepts -/

namespace Session

def engaged (s : Session) (action : Action) : Session :=
  { s with
    phase := action.during, error? := none, outstanding? := some (s.issued + 1), issued := s.issued + 1 }

theorem dispatch_eq_ok_iff {s t : Session} {action : Action} {token : Nat} :
    s.dispatch action = .ok (t, token) ↔ s.phase = action.start ∧ t = s.engaged action ∧ token = s.issued + 1 := by
  unfold dispatch
  split
  · rename_i hbusy
    have hphase : s.phase ≠ action.start := fun h => by
      rw [h] at hbusy
      cases action <;> cases hbusy
    simp [hphase]
  · split
    · rename_i hphase
      simp [hphase, engaged, eq_comm]
    · rename_i hphase
      simp [hphase]

theorem dispatchSchema_eq_ok_iff {α : Type} {s t : Session} {action : Action} {call : Nat → Schema → α} {a : α} :
    s.dispatchSchema action call = .ok (t, a) ↔
      s.phase = action.start ∧ t = s.engaged action ∧ ∃ schema, s.schema? = some schema ∧
      a = call (s.issued + 1) schema := by
  unfold dispatchSchema
  cases hd : s.dispatch action with
  | error refusal =>
    have hphase : s.phase ≠ action.start := fun h => by
      rw [dispatch_eq_ok_iff.2 ⟨h, rfl, rfl⟩] at hd
      cases hd
    simp [hphase]
  | ok r =>
    obtain ⟨hphase, ht, htoken⟩ := dispatch_eq_ok_iff.1 hd
    cases hs : s.schema? <;> simp [hphase, ht, htoken, eq_comm]

theorem submit_eq_ok_iff {s t : Session} {prompt : String} {hints : Hints} {call : DraftCall} :
    s.submit prompt hints = .ok (t, call) ↔
      s.phase = .prompt ∧ t = s.engaged .submit ∧ call = ⟨s.issued + 1, .interpret prompt hints⟩ := by
  simp only [submit, Sequence.map_eq_ok_iff, Prod.exists, dispatch_eq_ok_iff, Prod.mk.injEq]
  constructor
  · rintro ⟨_, _, ⟨hphase, rfl, rfl⟩, rfl, rfl⟩
    exact ⟨hphase, rfl, rfl⟩
  · rintro ⟨hphase, rfl, rfl⟩
    exact ⟨_, _, ⟨hphase, rfl, rfl⟩, rfl, rfl⟩

theorem regenerate_eq_ok_iff {s t : Session} {feedback : String} {call : DraftCall} :
    s.regenerate feedback = .ok (t, call) ↔ s.phase = .mockup ∧ t = s.engaged .regenerate ∧
      ∃ schema, s.schema? = some schema ∧ call = ⟨s.issued + 1, .refine schema feedback⟩ :=
  dispatchSchema_eq_ok_iff

theorem confirm_eq_ok_iff {s t : Session} {call : ReportCall} :
    s.confirm = .ok (t, call) ↔ s.phase = .mockup ∧ t = s.engaged .confirm ∧
      ∃ schema, s.schema? = some schema ∧ call = ⟨s.issued + 1, schema⟩ :=
  dispatchSchema_eq_ok_iff

theorem revise_eq_ok_iff {s t : Session} : s.revise = .ok t ↔
    s.phase = .report ∧ s.outcome?.any Outcome.success = false ∧ t = { s with outcome? := none, phase := .mockup } := by
  unfold revise
  split
  · rename_i hphase
    simp [hphase]
  · rename_i hphase
    split
    · rename_i hfinal
      simp [hfinal]
    · rename_i hfinal
      simp only [Except.ok.injEq, Decidable.not_not.1 hphase, Bool.not_eq_true _ ▸ hfinal, true_and]
      exact eq_comm

theorem editMockup_eq_ok_iff {s t : Session} {supply rest : Supply} {e : Edit} :
    s.editMockup supply e = .ok (t, rest) ↔ s.phase = .mockup ∧ ∃ schema after, s.schema? = some schema ∧
      schema.apply supply e = .ok (after, rest) ∧ t = { s with schema? := some after } := by
  unfold editMockup
  split
  · rename_i hbusy
    have hphase : s.phase ≠ .mockup := fun h => by rw [h] at hbusy; cases hbusy
    simp [hphase]
  · split
    · rename_i schema hphase hschema
      simp only [hphase, hschema, Option.some.injEq, exists_and_left, exists_eq_left', true_and]
      cases ha : schema.apply supply e with
      | error _ => simp
      | ok r =>
        obtain ⟨after, rest'⟩ := r
        simp only [Except.ok.injEq, Prod.mk.injEq]
        constructor
        · rintro ⟨rfl, rfl⟩
          exact ⟨after, ⟨rfl, rfl⟩, rfl⟩
        · rintro ⟨_, ⟨rfl, rfl⟩, rfl⟩
          exact ⟨rfl, rfl⟩
    · rename_i hnot
      simp only [reduceCtorEq, false_iff, not_and, not_exists]
      exact fun hphase schema _ hschema _ => (hnot schema hphase hschema).elim

theorem edit_eq_ok_iff {s t : Session} {supply rest : Supply} {e : Edit} :
    s.edit supply e = .ok (t, rest) ↔ checkOperands e = .ok () ∧ s.phase = .mockup ∧
      ∃ schema after, s.schema? = some schema ∧ schema.apply supply e = .ok (after, rest) ∧
        t = { s with schema? := some after } := by
  simp only [edit, Sequence.bind_eq_ok_iff, editMockup_eq_ok_iff]
  exact ⟨fun ⟨_, h⟩ => h, fun h => ⟨(), h⟩⟩

theorem endDraft_of_stale {s : Session} {call : DraftCall} (h : s.outstanding? ≠ some call.token)
    (answer : Except TaskFailure Schema) : s.endDraft call answer = s := by
  simp [endDraft, isLive, h]

theorem endDraft_of_live {s : Session} {call : DraftCall} (h : s.outstanding? = some call.token)
    (answer : Except TaskFailure Schema) : s.endDraft call answer = s.applyDraft call.task.action answer := by
  simp [endDraft, isLive, h]

theorem endReport_of_stale {s : Session} {call : ReportCall} (h : s.outstanding? ≠ some call.token)
    (answer : Except ReportFailure Outcome) : s.endReport call answer = s := by
  simp [endReport, isLive, h]

theorem endReport_of_live {s : Session} {call : ReportCall} (h : s.outstanding? = some call.token)
    (answer : Except ReportFailure Outcome) : s.endReport call answer = s.applyReport answer := by
  simp [endReport, isLive, h]

end Session

/-! ## What an event does -/

namespace Desk

/-- **What an event can do at a desk.**  Whatever is refused or fails does nothing. -/
inductive Effect (d : Desk) : Event → Desk → Prop where
  | refused {e : Event} : Effect d e d
  | begun {e : Event} {w : Workflow} {call : Call} :
      d.session.phase = call.action.start → call.token = d.session.issued + 1 →
      (∀ c, call = .report c → d.session.schema? = some c.schema) →
      w.session = d.session.engaged call.action → w.supply = d.workflow.supply →
      Effect d e ⟨w, call :: d.calls⟩
  | draftEnded {call : DraftCall} {interpreter : Interpreter} : .draft call ∈ d.calls →
      Effect d (.endDraft call interpreter)
        ⟨(d.workflow.endDraft interpreter call).1, d.calls.erase (.draft call)⟩
  | reportEnded {call : ReportCall} {pipeline : Pipeline} : .report call ∈ d.calls →
      Effect d (.endReport call pipeline)
        ⟨(d.workflow.endReport pipeline call).1, d.calls.erase (.report call)⟩
  | startedOver : Effect d .startOver ⟨d.workflow.startOver, d.calls⟩
  | revised {w : Workflow} : d.session.phase = .report → d.session.outcome?.any Outcome.success = false →
      w.session = { d.session with outcome? := none, phase := .mockup } → w.supply = d.workflow.supply →
      Effect d .revise ⟨w, d.calls⟩
  | edited {e : Edit} {w : Workflow} {schema after : Schema} : d.session.phase = .mockup →
      d.session.schema? = some schema → schema.apply d.workflow.supply e = .ok (after, w.supply) →
      w.session = { d.session with schema? := some after } → Effect d (.edit e) ⟨w, d.calls⟩

theorem effect_begun {α : Type} (d : Desk) (e : Event) (wait : α → Call) (action : Action) (token : α → Nat)
    (r : Except Refusal (Session × α))
    (h : ∀ t a, r = .ok (t, a) → d.session.phase = action.start ∧ t = d.session.engaged action ∧
      (wait a).action = action ∧ (wait a).token = d.session.issued + 1 ∧
      ∀ c, wait a = .report c → d.session.schema? = some c.schema) :
    Effect d e (d.begun wait (d.workflow.dispatched action token r)) := by
  cases r with
  | error refusal => exact .refused
  | ok p =>
    obtain ⟨t, a⟩ := p
    obtain ⟨hphase, rfl, haction, htoken, hschema⟩ := h t a rfl
    exact .begun (by rw [haction, hphase]) htoken hschema (by rw [haction]) rfl

/-- **Every event has an effect.** -/
theorem effect_step (d : Desk) (e : Event) : Effect d e (d.step e) := by
  cases e with
  | submit prompt hints =>
    refine effect_begun d _ .draft .submit _ _ (fun t call hr => ?_)
    obtain ⟨hphase, rfl, rfl⟩ := Session.submit_eq_ok_iff.1 hr
    exact ⟨hphase, rfl, rfl, rfl, fun c hc => by cases hc⟩
  | regenerate feedback =>
    refine effect_begun d _ .draft .regenerate _ _ (fun t call hr => ?_)
    obtain ⟨hphase, rfl, schema, -, rfl⟩ := Session.regenerate_eq_ok_iff.1 hr
    exact ⟨hphase, rfl, rfl, rfl, fun c hc => by cases hc⟩
  | confirm =>
    refine effect_begun d _ .report .confirm _ _ (fun t call hr => ?_)
    obtain ⟨hphase, rfl, schema, hschema, rfl⟩ := Session.confirm_eq_ok_iff.1 hr
    exact ⟨hphase, rfl, rfl, rfl, fun c hc => by cases hc; exact hschema⟩
  | endDraft call interpreter =>
    simp only [step]
    split
    · exact .draftEnded ‹_›
    · exact .refused
  | endReport call pipeline =>
    simp only [step]
    split
    · exact .reportEnded ‹_›
    · exact .refused
  | startOver => exact .startedOver
  | revise =>
    simp only [step, Workflow.revise]
    cases hr : d.workflow.session.revise with
    | error refusal => exact .refused
    | ok t =>
      obtain ⟨hphase, hfailed, rfl⟩ := Session.revise_eq_ok_iff.1 hr
      exact .revised hphase hfailed rfl rfl
  | edit e =>
    simp only [step, Workflow.edit]
    cases hr : d.workflow.session.edit d.workflow.supply e with
    | error refusal => exact .refused
    | ok r =>
      obtain ⟨t, supply⟩ := r
      obtain ⟨-, hphase, schema, after, hschema, hafter, rfl⟩ := Session.edit_eq_ok_iff.1 hr
      exact .edited hphase hschema hafter rfl

end Desk
end Scaffold
