import Scaffold.Proofs.Session.Tokens
/-!
# Proofs.Session.Pending — a session that waits for a call

While a token is outstanding nothing that happens touches the session: whatever is asked for is refused, and calls that
end are stale.  Only the end of the call that is waited for and starting over do, and both use the token up.  So as long
as the call is live the session is the one that began it (`session_eq_of_pending`).
-/
namespace Scaffold

theorem Action.busy_start (action : Action) : action.start.busy = false := by
  cases action <;> rfl

namespace Desk

variable {d d' : Desk} {token : Nat} {e : Event}

theorem Tracked.le_issued_of_outstanding (h : d.Tracked) (hout : d.session.outstanding? = some token) :
    token ≤ d.session.issued := by
  obtain ⟨call, hcall, rfl⟩ := h.exists_live token hout
  exact h.le_issued call hcall

theorem session_eq_or_usedUp (htracked : d.Tracked) (hout : d.session.outstanding? = some token)
    (he : d.Effect e d') : d'.session = d.session ∨ d'.session.UsedUp token := by
  have hissued := htracked.le_issued_of_outstanding hout
  have hbusy : d.session.phase.busy = true := by
    rw [htracked.busy, hout]
    rfl
  -- Whatever is allowed in an idle step only is refused.
  have hidle : ∀ {phase : Phase}, phase.busy = false → d.session.phase ≠ phase := fun hphase heq => by
    rw [heq, hphase] at hbusy
    cases hbusy
  cases he with
  | refused => exact .inl rfl
  | @begun _ w call hphase _ _ _ _ => exact absurd hphase (hidle (Action.busy_start _))
  | @draftEnded call interpreter _ =>
    by_cases hlive : d.session.outstanding? = some call.token
    · exact .inr ((Session.endDraft_released hlive _).usedUp hissued)
    · exact .inl (Session.endDraft_of_stale hlive _)
  | @reportEnded call pipeline _ =>
    by_cases hlive : d.session.outstanding? = some call.token
    · exact .inr ((Session.endReport_released hlive _).usedUp hissued)
    · exact .inl (Session.endReport_of_stale hlive _)
  | startedOver => exact .inr (Session.ReleasedFrom.usedUp ⟨rfl, rfl, rfl⟩ hissued)
  | @revised w hphase _ _ _ => exact absurd hphase (hidle rfl)
  | @edited _ w _ _ hphase _ _ _ => exact absurd hphase (hidle rfl)

/-- **As long as a token is outstanding the session stays as it is**, whatever happens. -/
theorem session_eq_of_pending (htracked : d.Tracked) (hout : d.session.outstanding? = some token) {events : List Event}
    (hstill : (d.run events).session.outstanding? = some token) : (d.run events).session = d.session := by
  have hrun : (d.run events).Tracked ∧
      ((d.run events).session = d.session ∨ (d.run events).session.UsedUp token) := by
    refine run_induction (fun d' => d'.Tracked ∧ (d'.session = d.session ∨ d'.session.UsedUp token)) (fun _ => True)
      (fun d' e _ h => ⟨h.1.effect (effect_step d' e), ?_⟩) events d (fun _ _ => trivial) ⟨htracked, .inl rfl⟩
    rcases h.2 with hsame | hused
    · rw [← hsame] at hout ⊢
      exact session_eq_or_usedUp h.1 hout (effect_step d' e)
    · exact .inr (usedUp_effect hused (effect_step d' e))
  exact hrun.2.resolve_right (fun hused => hused.2 hstill)

end Desk
end Scaffold
