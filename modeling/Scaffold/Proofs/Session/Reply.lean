import Scaffold.Proofs.Interpreter.Remote
import Scaffold.Proofs.Session.Pending
import Scaffold.Proofs.Session.Shape
/-!
# Proofs.Session.Reply — what a session makes of the service's reply

A draft that is still waited for ends in one of three ways: with a schema, with a reason, or with a fault.  The first
two are contained (`EndsContained`): the session shows the schema or the reason.  A reply of the service is contained
exactly if it does not break the interpretation off (`reply_contained_iff`).
-/
namespace Scaffold
namespace Desk

def drafted (d : Desk) (interpreter : Interpreter) (call : DraftCall) : Except TaskFailure Schema :=
  (draft d.workflow.supply (interpreter.answer call.task)).1

/-- **The end of a call is contained.**  It returns that a schema was applied, and the mockup shows it; or it returns
that none was, and the session is back in the step of the request with the schema that it had and the reason. -/
def EndsContained (d : Desk) (interpreter : Interpreter) (call : DraftCall) (phase : Phase)
    (old? : Option Schema) : Prop :=
  let (w, returned) := d.workflow.endDraft interpreter call
  (returned = .ok true ∧ w.session.phase = .mockup ∧
    ∃ schema, d.drafted interpreter call = .ok schema ∧ w.session.schema? = some schema) ∨
  (returned = .ok false ∧ w.session.phase = phase ∧ w.session.schema? = old? ∧
    ∃ e, d.drafted interpreter call = .error (.interpretation e) ∧ w.session.error? = some e.message)

/-- **The end of a call is a fault**: it returns nothing, and the session is back without a reason. -/
def EndsInFault (d : Desk) (interpreter : Interpreter) (call : DraftCall) (phase : Phase)
    (old? : Option Schema) : Prop :=
  let (w, returned) := d.workflow.endDraft interpreter call
  ∃ c, returned = .error c ∧ w.session.phase = phase ∧ w.session.schema? = old? ∧ w.session.error? = none

section

variable {d : Desk} {s : Session} {call : DraftCall}

theorem endDraft_of_engaged (hs : d.session = s.engaged call.task.action) (htoken : call.token = s.issued + 1)
    (interpreter : Interpreter) :
    (d.workflow.endDraft interpreter call).1.session =
      (s.engaged call.task.action).applyDraft call.task.action (d.drafted interpreter call) ∧
    (d.workflow.endDraft interpreter call).2 =
      match d.drafted interpreter call with
      | .ok _ => .ok true
      | .error (.interpretation _) => .ok false
      | .error (.crash c) => .error c := by
  have hlive : d.session.outstanding? = some call.token := by rw [hs, htoken]; rfl
  constructor
  · rw [← hs]
    exact Session.endDraft_of_live hlive _
  · show d.session.draftResult call (d.drafted interpreter call) = _
    rcases d.drafted interpreter call with (e | c) | schema
    · rfl
    · rfl
    · simp [Session.draftResult, Session.isLive, hlive]

/-- **A call that is waited for ends in a fault exactly if its draft does**, and otherwise its end is contained. -/
theorem ends_iff (hs : d.session = s.engaged call.task.action) (htoken : call.token = s.issued + 1)
    (hphase : s.phase = call.task.action.start) (hschema : call.task.action = .submit → s.schema? = none)
    (interpreter : Interpreter) :
    (d.EndsContained interpreter call s.phase s.schema? ↔ ¬ ∃ c, d.drafted interpreter call = .error (.crash c)) ∧
    (d.EndsInFault interpreter call s.phase s.schema? ↔ ∃ c, d.drafted interpreter call = .error (.crash c)) := by
  obtain ⟨hsession, hreturned⟩ := endDraft_of_engaged hs htoken interpreter
  simp only [EndsContained, EndsInFault, hsession, hreturned]
  rcases d.drafted interpreter call with (e | c) | schema
  · -- a first draft that fails clears the schema, but there was none; a new one that fails keeps it
    by_cases haction : call.task.action = .submit
    · simp [Session.applyDraft, hphase, haction, hschema haction]
    · simp [Session.applyDraft, hphase, haction, Session.engaged]
  · simp [Session.applyDraft, Session.engaged, hphase]
  · simp [Session.applyDraft]

theorem ends_of_engaged {baseUrl : String} (reply : Remote.Request → Remote.Reply) (htracked : d.Tracked)
    (hs : d.session = s.engaged call.task.action) (htoken : call.token = s.issued + 1)
    (hphase : s.phase = call.task.action.start) (hschema : call.task.action = .submit → s.schema? = none)
    (haddress : ∃ url, Remote.address baseUrl call.task = .ok url) {between : List Event}
    (hstill : (d.run between).session.outstanding? = some call.token) :
    let later := d.run between
    (later.EndsContained (Remote.interpreter baseUrl reply) call s.phase s.schema? ↔
      ¬ Remote.Breaks baseUrl reply call.task) ∧
    (later.EndsInFault (Remote.interpreter baseUrl reply) call s.phase s.schema? ↔
      Remote.Breaks baseUrl reply call.task) := by
  intro later
  have hout : d.session.outstanding? = some call.token := by
    rw [hs, htoken]
    rfl
  have hsame : later.session = s.engaged call.task.action := (session_eq_of_pending htracked hout hstill).trans hs
  have hcrash : (∃ c, later.drafted (Remote.interpreter baseUrl reply) call = .error (.crash c)) ↔
      Remote.Breaks baseUrl reply call.task := by
    obtain ⟨url, hurl⟩ := haddress
    rw [drafted, Remote.exists_draft_eq_crash_iff, hurl]
    simp
  rw [← hcrash]
  exact ends_iff hsame htoken hphase hschema (Remote.interpreter baseUrl reply)

theorem begun_dispatched {α : Type} (d : Desk) (wait : α → Call) (action : Action) (token : α → Nat)
    {r : Except Refusal (Session × α)} {t : Session} {a : α} (h : r = .ok (t, a)) :
    (d.begun wait (d.workflow.dispatched action token r)).session = t ∧
      (d.begun wait (d.workflow.dispatched action token r)).calls = wait a :: d.calls := by
  subst h
  exact ⟨rfl, rfl⟩

end

theorem begun_submit {d : Desk} (hphase : d.session.phase = .prompt) (prompt : String) (hints : Hints) :
    (d.step (.submit prompt hints)).session = d.session.engaged .submit ∧
      (d.step (.submit prompt hints)).calls = .draft ⟨d.session.issued + 1, .interpret prompt hints⟩ :: d.calls :=
  begun_dispatched d .draft .submit DraftCall.token (Session.submit_eq_ok_iff.2 ⟨hphase, rfl, rfl⟩)

theorem begun_regenerate {d : Desk} (hphase : d.session.phase = .mockup) {old : Schema}
    (hold : d.session.schema? = some old) (feedback : String) :
    (d.step (.regenerate feedback)).session = d.session.engaged .regenerate ∧
      (d.step (.regenerate feedback)).calls = .draft ⟨d.session.issued + 1, .refine old feedback⟩ :: d.calls :=
  begun_dispatched d .draft .regenerate DraftCall.token (Session.regenerate_eq_ok_iff.2 ⟨hphase, rfl, old, hold, rfl⟩)

/-- **What the service replies is contained, unless it breaks the interpretation off.**  Where the address of the
service is one, a prompt that is submitted begins a call; if the call is still waited for when it ends, whatever came in
between, then the mockup shows the schema or the prompt shows the reason, exactly if the reply is none of those that
`Breaks` lists.  With one of these the call ends in a fault, and the session is back without a reason.  It is the same
with feedback, but for the schema, which is the old one if there is no new one. -/
theorem reply_contained_iff (baseUrl : String) (reply : Remote.Request → Remote.Reply)
    (haddress : ∀ task, ∃ url, Remote.address baseUrl task = .ok url) (id? : Option String) (events : List Event) :
    let d := (start id?).run events
    let service := Remote.interpreter baseUrl reply
    (d.session.phase = .prompt → ∀ prompt hints,
      let call : DraftCall := ⟨d.session.issued + 1, .interpret prompt hints⟩
      let begun := d.step (.submit prompt hints)
      begun.calls = .draft call :: d.calls ∧
        ∀ between, (begun.run between).session.outstanding? = some call.token →
          ((begun.run between).EndsContained service call .prompt none ↔ ¬ Remote.Breaks baseUrl reply call.task) ∧
          ((begun.run between).EndsInFault service call .prompt none ↔ Remote.Breaks baseUrl reply call.task)) ∧
    (d.session.phase = .mockup → ∃ old, d.session.schema? = some old ∧ ∀ feedback,
      let call : DraftCall := ⟨d.session.issued + 1, .refine old feedback⟩
      let begun := d.step (.regenerate feedback)
      begun.calls = .draft call :: d.calls ∧
        ∀ between, (begun.run between).session.outstanding? = some call.token →
          ((begun.run between).EndsContained service call .mockup (some old) ↔
            ¬ Remote.Breaks baseUrl reply call.task) ∧
          ((begun.run between).EndsInFault service call .mockup (some old) ↔
            Remote.Breaks baseUrl reply call.task)) := by
  intro d service
  obtain ⟨htracked, hwell⟩ : d.Tracked ∧ d.session.WellFormed := sound_of_start id? events
  constructor
  · intro hphase prompt hints call begun
    have hschema : d.session.schema? = none := hwell.schema.2 (.inl hphase)
    obtain ⟨hbegun, hcalls⟩ := begun_submit hphase prompt hints
    refine ⟨hcalls, fun between hstill => ?_⟩
    have hends := ends_of_engaged reply (htracked.effect (effect_step d _)) hbegun (rfl : call.token = _) hphase
      (fun _ => hschema) (haddress call.task) hstill
    rwa [hphase, hschema] at hends
  · intro hphase
    obtain ⟨old, hold⟩ := hwell.exists_schema hphase
    refine ⟨old, hold, fun feedback => ?_⟩
    intro call begun
    obtain ⟨hbegun, hcalls⟩ := begun_regenerate hphase hold feedback
    refine ⟨hcalls, fun between hstill => ?_⟩
    have hends := ends_of_engaged reply (htracked.effect (effect_step d _)) hbegun (rfl : call.token = _) hphase
      (fun h => by cases h) (haddress call.task) hstill
    rwa [hphase, hold] at hends

def replyWith (fields : String) (_ : Remote.Request) : Remote.Reply :=
  .answered 200 ("\x7b\"entityName\":\"B\",\"fields\":" ++ fields ++ "\x7d").toList

def firstCall : DraftCall := ⟨1, .interpret "p" {}⟩

def waitingDesk : Desk := ((start (some "s")).step (.submit "p" {})).run [.edit .addField]

/-- A field may be given as pairs of keys and values. -/
theorem pairs_contained : (∀ task, ∃ url, Remote.address Remote.serviceUrl task = .ok url) ∧
    waitingDesk.session.outstanding? = some firstCall.token ∧
    waitingDesk.EndsContained (Remote.interpreter Remote.serviceUrl (replyWith "[[[\"name\",\"title\"]]]"))
      firstCall .prompt none := by
  have hout : waitingDesk.session.outstanding? = some firstCall.token := by rfl
  have hdrafted : (waitingDesk.drafted (Remote.interpreter Remote.serviceUrl (replyWith "[[[\"name\",\"title\"]]]"))
      firstCall).toOption.isSome = true := by decide +kernel
  have hbreaks : ¬ Remote.Breaks Remote.serviceUrl (replyWith "[[[\"name\",\"title\"]]]") firstCall.task := fun h => by
    obtain ⟨c, hc⟩ := (Remote.exists_draft_eq_crash_iff waitingDesk.workflow.supply _ _ _).2 (.inr h)
    rw [drafted, hc] at hdrafted
    cases hdrafted
  obtain ⟨hprompt, -⟩ := reply_contained_iff Remote.serviceUrl (replyWith "[[[\"name\",\"title\"]]]")
    Remote.exists_address_serviceUrl (some "s") []
  exact ⟨Remote.exists_address_serviceUrl, hout, ((hprompt rfl "p" {}).2 [.edit .addField] hout).1.2 hbreaks⟩

/-- **A number in the place of the fields is not contained**: the call ends in a fault, and the session has no reason to
show. -/
theorem number_not_contained : waitingDesk.session.outstanding? = some firstCall.token ∧
    (∀ task, ∃ url, Remote.address Remote.serviceUrl task = .ok url) ∧
    (waitingDesk.workflow.endDraft (Remote.interpreter Remote.serviceUrl (replyWith "5")) firstCall).2 =
      .error (.shape (.notIterable "int")) ∧
    ¬ waitingDesk.EndsContained (Remote.interpreter Remote.serviceUrl (replyWith "5")) firstCall .prompt none := by
  have hreturned : (waitingDesk.workflow.endDraft (Remote.interpreter Remote.serviceUrl (replyWith "5")) firstCall).2 =
      .error (.shape (.notIterable "int")) := by decide +kernel
  refine ⟨rfl, Remote.exists_address_serviceUrl, hreturned, ?_⟩
  rintro (⟨htrue, -⟩ | ⟨hfalse, -⟩)
  · cases hreturned.symm.trans htrue
  · cases hreturned.symm.trans hfalse

end Desk
end Scaffold
