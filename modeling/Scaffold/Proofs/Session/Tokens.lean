import Scaffold.Proofs.Session.Desk
/-!
# Proofs.Session.Tokens — at most one call is live

Tokens are given out once each.  So no two calls at a desk have the same one, the outstanding token belongs to exactly
one call as long as the session is busy, and that call is of the kind the session waits for (`Tracked`).  A call that
has become stale stays so, whatever happens (`usedUp_run`), and its end leaves the session as it is.
-/
namespace Scaffold

namespace Session

structure ReleasedFrom (s t : Session) : Prop where
  outstanding : t.outstanding? = none
  idle : t.phase.busy = false
  issued : t.issued = s.issued

theorem endDraft_released {s : Session} {call : DraftCall} (h : s.outstanding? = some call.token)
    (answer : Except TaskFailure Schema) : s.ReleasedFrom (s.endDraft call answer) := by
  rw [endDraft_of_live h]
  rcases answer with (e | c) | schema
  · exact ⟨rfl, by cases call.task <;> rfl, rfl⟩
  · exact ⟨rfl, by cases call.task <;> rfl, rfl⟩
  · exact ⟨rfl, rfl, rfl⟩

theorem endReport_released {s : Session} {call : ReportCall} (h : s.outstanding? = some call.token)
    (answer : Except ReportFailure Outcome) : s.ReleasedFrom (s.endReport call answer) := by
  rw [endReport_of_live h]
  rcases answer with (reason | c) | outcome <;> exact ⟨rfl, rfl, rfl⟩

/-- **A token that is used up**: it was given out and is not outstanding. -/
def UsedUp (s : Session) (token : Nat) : Prop := token ≤ s.issued ∧ s.outstanding? ≠ some token

theorem ReleasedFrom.usedUp {s t : Session} {token : Nat} (h : s.ReleasedFrom t) (hissued : token ≤ s.issued) :
    t.UsedUp token := by
  refine ⟨h.issued ▸ hissued, ?_⟩
  rw [h.outstanding]
  simp

namespace UsedUp

variable {s t : Session} {token : Nat}

theorem released (h : s.UsedUp token) (hs : s.ReleasedFrom t) : t.UsedUp token := hs.usedUp h.1

theorem engaged (h : s.UsedUp token) (action : Action) : (s.engaged action).UsedUp token := by
  refine ⟨Nat.le_succ_of_le h.1, fun hout => ?_⟩
  have hlt := h.1
  have := Option.some.inj hout
  omega

theorem endDraft (h : s.UsedUp token) (call : DraftCall) (answer : Except TaskFailure Schema) :
    (s.endDraft call answer).UsedUp token := by
  by_cases hlive : s.outstanding? = some call.token
  · exact h.released (endDraft_released hlive answer)
  · rwa [endDraft_of_stale hlive]

theorem endReport (h : s.UsedUp token) (call : ReportCall) (answer : Except ReportFailure Outcome) :
    (s.endReport call answer).UsedUp token := by
  by_cases hlive : s.outstanding? = some call.token
  · exact h.released (endReport_released hlive answer)
  · rwa [endReport_of_stale hlive]

end UsedUp

/-- What a stale call for a draft returns: nothing was applied; only a fault that nobody foresaw is passed on. -/
def staleDraftResult : Except TaskFailure Schema → Except Crash Bool
  | .ok _ | .error (.interpretation _) => .ok false
  | .error (.crash c) => .error c

def staleReportResult : Except ReportFailure Outcome → Except ReportFailure (Option Outcome)
  | .ok _ | .error (.compilation _) => .ok none
  | .error (.crash c) => .error (.crash c)

theorem draftResult_of_stale {s : Session} {call : DraftCall} (h : s.outstanding? ≠ some call.token)
    (answer : Except TaskFailure Schema) : s.draftResult call answer = staleDraftResult answer := by
  rcases answer with (e | c) | schema <;> simp [draftResult, staleDraftResult, isLive, h]

theorem reportResult_of_stale {s : Session} {call : ReportCall} (h : s.outstanding? ≠ some call.token)
    (answer : Except ReportFailure Outcome) : s.reportResult call answer = staleReportResult answer := by
  rcases answer with (reason | c) | outcome <;> simp [reportResult, staleReportResult, isLive, h]

end Session

namespace Desk

def isLive (d : Desk) (call : Call) : Bool := d.session.isLive call.token

theorem isLive_iff {d : Desk} {call : Call} : d.isLive call = true ↔ d.session.outstanding? = some call.token := by
  simp [isLive, Session.isLive]

/-- **How the calls at a desk and the outstanding token belong together.** -/
structure Tracked (d : Desk) : Prop where
  /-- No two calls have the same token. -/
  nodup : (d.calls.map Call.token).Nodup
  /-- Every token was given out. -/
  le_issued : ∀ call ∈ d.calls, call.token ≤ d.session.issued
  /-- The outstanding token belongs to a call. -/
  exists_live : ∀ token, d.session.outstanding? = some token → ∃ call ∈ d.calls, call.token = token
  /-- The session waits for the call that is live. -/
  during : ∀ call ∈ d.calls, d.session.outstanding? = some call.token → d.session.phase = call.action.during
  /-- The session is busy exactly while a token is outstanding. -/
  busy : d.session.phase.busy = d.session.outstanding?.isSome

theorem tracked_start (id? : Option String) : Tracked (start id?) := by
  obtain ⟨id, hs⟩ := session_start id?
  refine ⟨.nil, fun _ h => absurd h List.not_mem_nil, fun token ht => ?_, fun _ h => absurd h List.not_mem_nil, ?_⟩
  · rw [hs] at ht
    cases ht
  · rw [hs]
    rfl

namespace Tracked

variable {d : Desk} {w : Workflow}

theorem outstanding_eq_none (h : d.Tracked) (hidle : d.session.phase.busy = false) : d.session.outstanding? = none := by
  rw [h.busy] at hidle
  simpa using hidle

theorem begun (h : d.Tracked) {call : Call} (htoken : call.token = d.session.issued + 1)
    (hsession : w.session = d.session.engaged call.action) : Tracked ⟨w, call :: d.calls⟩ := by
  have hnew : ∀ c ∈ d.calls, c.token ≠ call.token := fun c hc => by
    have := h.le_issued c hc
    omega
  have hs : session ⟨w, call :: d.calls⟩ = d.session.engaged call.action := hsession
  have hout : (d.session.engaged call.action).outstanding? = some call.token := by rw [htoken]; rfl
  refine ⟨?_, ?_, ?_, ?_, ?_⟩ <;> simp only [hs]
  · refine List.nodup_cons.2 ⟨fun hin => ?_, h.nodup⟩
    obtain ⟨c, hc, heq⟩ := List.mem_map.1 hin
    exact hnew c hc heq
  · refine List.forall_mem_cons.2 ⟨Nat.le_of_eq htoken, fun c hc => ?_⟩
    exact Nat.le_succ_of_le (h.le_issued c hc)
  · intro token ht
    rw [hout] at ht
    exact ⟨call, List.mem_cons_self, Option.some.inj ht⟩
  · refine List.forall_mem_cons.2 ⟨fun _ => rfl, fun c hc hlive => ?_⟩
    rw [hout] at hlive
    exact absurd (Option.some.inj hlive).symm (hnew c hc)
  · cases call.action <;> rfl

theorem released (h : d.Tracked) {calls : List Call} (hsub : calls.Sublist d.calls)
    (hs : d.session.ReleasedFrom w.session) : Tracked ⟨w, calls⟩ := by
  have hnone : ∀ token, (session ⟨w, calls⟩).outstanding? ≠ some token := fun token ht => by
    rw [show (session ⟨w, calls⟩).outstanding? = none from hs.outstanding] at ht
    cases ht
  refine ⟨h.nodup.sublist (hsub.map _), fun c hc => ?_, fun token ht => absurd ht (hnone token),
    fun c _ ht => absurd ht (hnone _), ?_⟩
  · rw [show (session ⟨w, calls⟩).issued = d.session.issued from hs.issued]
    exact h.le_issued c (hsub.subset hc)
  · show w.session.phase.busy = w.session.outstanding?.isSome
    rw [hs.idle, hs.outstanding]
    rfl

theorem dropped (h : d.Tracked) {call : Call} (hstale : d.session.outstanding? ≠ some call.token)
    (hs : w.session = d.session) : Tracked ⟨w, d.calls.erase call⟩ := by
  have hsub : (d.calls.erase call).Sublist d.calls := List.erase_sublist
  replace hs : session ⟨w, d.calls.erase call⟩ = d.session := hs
  refine ⟨h.nodup.sublist (hsub.map _), ?_, ?_, ?_, ?_⟩ <;> simp only [hs]
  · exact fun c hc => h.le_issued c (hsub.subset hc)
  · intro token ht
    obtain ⟨c, hc, rfl⟩ := h.exists_live token ht
    refine ⟨c, (List.mem_erase_of_ne (fun heq => hstale ?_)).2 hc, rfl⟩
    rw [ht, heq]
  · exact fun c hc => h.during c (hsub.subset hc)
  · exact h.busy

theorem effect (h : d.Tracked) {e : Event} {d' : Desk} (he : d.Effect e d') : d'.Tracked := by
  cases he with
  | refused => exact h
  | begun _ htoken _ hsession _ => exact h.begun htoken hsession
  | draftEnded hcall =>
    rename_i call interpreter
    by_cases hlive : d.session.outstanding? = some call.token
    · exact h.released List.erase_sublist (Session.endDraft_released hlive _)
    · exact h.dropped hlive (Session.endDraft_of_stale hlive _)
  | reportEnded hcall =>
    rename_i call pipeline
    by_cases hlive : d.session.outstanding? = some call.token
    · exact h.released List.erase_sublist (Session.endReport_released hlive _)
    · exact h.dropped hlive (Session.endReport_of_stale hlive _)
  | startedOver => exact h.released (List.Sublist.refl _) ⟨rfl, rfl, rfl⟩
  | revised hphase _ hsession _ =>
    have hnone := h.outstanding_eq_none (by rw [hphase]; rfl)
    exact h.released (List.Sublist.refl _) (hsession ▸ ⟨hnone, rfl, rfl⟩)
  | edited hphase _ _ hsession =>
    have hnone := h.outstanding_eq_none (by rw [hphase]; rfl)
    exact h.released (List.Sublist.refl _) (hsession ▸ ⟨hnone, by rw [hphase]; rfl, rfl⟩)

end Tracked

theorem tracked_run (id? : Option String) (events : List Event) : ((start id?).run events).Tracked :=
  run_induction Tracked (fun _ => True) (fun d e _ h => h.effect (effect_step d e)) events _ (fun _ _ => trivial)
    (tracked_start id?)

theorem Tracked.countP_isLive {d : Desk} (h : d.Tracked) :
    d.calls.countP d.isLive = if d.session.phase.busy then 1 else 0 := by
  rw [h.busy]
  cases hout : d.session.outstanding? with
  | none =>
    refine List.countP_eq_zero.2 (fun call _ hlive => ?_)
    rw [isLive_iff, hout] at hlive
    cases hlive
  | some token =>
    have hlive : ∀ call ∈ d.calls, d.isLive call = true ↔ (fun t => t == token) call.token = true := fun call _ => by
      rw [isLive_iff, hout, Option.some.injEq, beq_iff_eq, eq_comm]
    rw [List.countP_congr hlive]
    obtain ⟨call, hcall, heq⟩ := h.exists_live token hout
    have hone : (d.calls.map Call.token).count token = 1 := by
      rw [h.nodup.count, if_pos (List.mem_map.2 ⟨call, hcall, heq⟩)]
    rwa [List.count, List.countP_map] at hone

/-! ## Stale calls -/

theorem usedUp_effect {d d' : Desk} {token : Nat} {e : Event} (h : d.session.UsedUp token) (he : d.Effect e d') :
    d'.session.UsedUp token := by
  cases he with
  | refused => exact h
  | @begun _ w call _ _ _ hsession _ =>
    show w.session.UsedUp token
    rw [hsession]
    exact h.engaged call.action
  | @draftEnded call interpreter _ => exact h.endDraft call _
  | @reportEnded call pipeline _ => exact h.endReport call _
  | startedOver => exact h.released ⟨rfl, rfl, rfl⟩
  | @revised w _ _ hsession _ =>
    show w.session.UsedUp token
    rw [hsession]
    exact h
  | @edited _ w _ _ _ _ _ hsession =>
    show w.session.UsedUp token
    rw [hsession]
    exact h

theorem usedUp_run {d : Desk} {token : Nat} (h : d.session.UsedUp token) (events : List Event) :
    (d.run events).session.UsedUp token :=
  run_induction (fun d => d.session.UsedUp token) (fun _ => True) (fun d e _ h => usedUp_effect h (effect_step d e))
    events d (fun _ _ => trivial) h

theorem endDraft_stale {d : Desk} {call : DraftCall} (h : d.session.outstanding? ≠ some call.token)
    (interpreter : Interpreter) : (d.step (.endDraft call interpreter)).session = d.session ∧
      (d.workflow.endDraft interpreter call).2 =
        Session.staleDraftResult (draft d.workflow.supply (interpreter.answer call.task)).1 := by
  refine ⟨?_, Session.draftResult_of_stale h _⟩
  simp only [step]
  split
  · exact Session.endDraft_of_stale h _
  · rfl

theorem endReport_stale {d : Desk} {call : ReportCall} (h : d.session.outstanding? ≠ some call.token)
    (pipeline : Pipeline) : (d.step (.endReport call pipeline)).session = d.session ∧
      (d.workflow.endReport pipeline call).2 = Session.staleReportResult (pipeline.run call.schema) := by
  refine ⟨?_, Session.reportResult_of_stale h _⟩
  simp only [step]
  split
  · exact Session.endReport_of_stale h _
  · rfl

/-- **At most one call is live, and every other one is stale for good.**  After any run one call is live if the session
is busy and none if it is not.  A call that is not live stays so whatever happens next, and whenever it ends, in
whatever way, the session is as it was before and the call returns as one that was not applied. -/
theorem live_and_stale_calls (id? : Option String) (events : List Event) :
    let d := (start id?).run events
    d.calls.countP d.isLive = (if d.session.phase.busy then 1 else 0) ∧
    ∀ call ∈ d.calls, d.isLive call = false → ∀ more : List Event,
      let later := d.run more
      later.isLive call = false ∧
      (∀ c interpreter, call = .draft c → (later.step (.endDraft c interpreter)).session = later.session ∧
        (later.workflow.endDraft interpreter c).2 =
          Session.staleDraftResult (draft later.workflow.supply (interpreter.answer c.task)).1) ∧
      (∀ c pipeline, call = .report c → (later.step (.endReport c pipeline)).session = later.session ∧
        (later.workflow.endReport pipeline c).2 =
          Session.staleReportResult (pipeline.run c.schema)) := by
  intro d
  have htracked : d.Tracked := tracked_run id? events
  refine ⟨htracked.countP_isLive, fun call hcall hstale more => ?_⟩
  have hused : d.session.UsedUp call.token :=
    ⟨htracked.le_issued call hcall, fun hlive => by rw [isLive_iff.2 hlive] at hstale; cases hstale⟩
  have hlater := (usedUp_run hused more).2
  refine ⟨?_, fun c interpreter hc => ?_, fun c pipeline hc => ?_⟩
  · exact Bool.eq_false_iff.2 (fun hlive => hlater (isLive_iff.1 hlive))
  · subst hc
    exact endDraft_stale hlater interpreter
  · subst hc
    exact endReport_stale hlater pipeline

end Desk
end Scaffold
