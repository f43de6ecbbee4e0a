import Scaffold.Proofs.Session.Report
/-!
# Proofs.Session.History — how a schema came to be what it is

From a mockup on, two things change the schema until the session starts over: an edit that succeeds, and a new draft
whose call returns that it was applied.  `changes` lists them in the order in which they took effect.  Whatever else was
begun, ended, failed and revised, there is a schema after every run, and it is the first one with these changes made one
after the other (`schema_of_changes`).
-/
namespace Scaffold

/-- **What takes effect on a schema**: an edit, with the supply from which it draws ids, or a new draft. -/
inductive Change where
  | edited (supply : Supply) (e : Edit)
  | redrafted (schema : Schema)

namespace Change

def apply (s : Schema) : Change → Except EditError Schema
  | .edited supply e => (s.apply supply e).map Prod.fst
  | .redrafted schema => .ok schema

def applyAll (s : Schema) (changes : List Change) : Except EditError Schema := changes.foldlM apply s

theorem applyAll_nil (s : Schema) : applyAll s [] = .ok s := rfl

theorem applyAll_singleton (s : Schema) (c : Change) : applyAll s [c] = c.apply s := by
  cases h : c.apply s <;> simp [applyAll, h, bind, Except.bind, pure, Except.pure]

theorem applyAll_append {s t u : Schema} {l m : List Change} (hl : applyAll s l = .ok t)
    (hm : applyAll t m = .ok u) : applyAll s (l ++ m) = .ok u := by
  rw [applyAll, List.foldlM_append]
  exact Sequence.bind_eq_ok_iff.2 ⟨t, hl, hm⟩

end Change

namespace Desk

def redraft? (d : Desk) (call : DraftCall) (interpreter : Interpreter) : Option Change :=
  if .draft call ∈ d.calls ∧ call.task.action = .regenerate then
    match (d.workflow.endDraft interpreter call).2, (draft d.workflow.supply (interpreter.answer call.task)).1 with
    | .ok true, .ok schema => some (.redrafted schema)
    | _, _ => none
  else none

/-- **The change that an event brings**, if it is an edit that succeeds or a new draft that is applied. -/
def change? (d : Desk) : Event → Option Change
  | .edit e =>
    match d.workflow.edit e with
    | .ok _ => some (.edited d.workflow.supply e)
    | .error _ => none
  | .endDraft call interpreter => d.redraft? call interpreter
  | _ => none

/-- **The changes of a run**, in the order in which they took effect. -/
def changes (d : Desk) : List Event → List Change
  | [] => []
  | e :: events => (d.change? e).toList ++ (d.step e).changes events

/-! ## What one event changes -/

theorem schema?_of_effect {d d' : Desk} {e : Event} (hedit : ∀ x, e ≠ .edit x)
    (hdraft : ∀ call interpreter, e ≠ .endDraft call interpreter) (hover : e ≠ .startOver) (he : d.Effect e d') :
    d'.session.schema? = d.session.schema? := by
  cases he with
  | refused => rfl
  | @begun _ w call _ _ _ hsession _ =>
    show w.session.schema? = d.session.schema?
    rw [hsession]
    rfl
  | draftEnded _ => exact absurd rfl (hdraft _ _)
  | @reportEnded call pipeline _ =>
    show (d.session.endReport call (pipeline.run call.schema)).schema? = d.session.schema?
    unfold Session.endReport
    split
    · rcases pipeline.run call.schema with (reason | c) | outcome <;> rfl
    · rfl
  | startedOver => exact absurd rfl hover
  | @revised w _ _ hsession _ =>
    show w.session.schema? = d.session.schema?
    rw [hsession]
  | edited _ _ _ _ => exact absurd rfl (hedit _)

theorem schema?_of_edit {d : Desk} {s : Schema} (hs : d.session.schema? = some s) (e : Edit) :
    ∃ t, Change.applyAll s (d.change? (.edit e)).toList = .ok t ∧ (d.step (.edit e)).session.schema? = some t := by
  simp only [change?, step, Workflow.edit]
  cases hr : d.workflow.session.edit d.workflow.supply e with
  | error _ => exact ⟨s, rfl, hs⟩
  | ok r =>
    obtain ⟨t, supply⟩ := r
    obtain ⟨-, -, schema, after, hschema, hafter, rfl⟩ := Session.edit_eq_ok_iff.1 hr
    obtain rfl := Option.some.inj (hs.symm.trans hschema)
    refine ⟨after, ?_, rfl⟩
    show Change.applyAll s [.edited d.workflow.supply e] = .ok after
    rw [Change.applyAll_singleton, Change.apply, hafter]
    rfl

theorem action_of_live {d : Desk} (htracked : d.Tracked) (hwell : d.session.WellFormed) {s : Schema}
    (hs : d.session.schema? = some s) {call : DraftCall} (hcall : .draft call ∈ d.calls)
    (hlive : d.session.outstanding? = some call.token) : call.task.action = .regenerate := by
  have hphase : d.session.phase = call.task.action.during := htracked.during _ hcall hlive
  cases h : call.task with
  | interpret prompt hints =>
    -- the first draft is made while there is no schema yet
    have hnone : d.session.schema? = none := hwell.schema.2 (.inr (by rw [hphase, h]; rfl))
    rw [hs] at hnone
    cases hnone
  | refine schema feedback => rfl

theorem schema?_of_endDraft {d : Desk} (htracked : d.Tracked) (hwell : d.session.WellFormed) {s : Schema}
    (hs : d.session.schema? = some s) (call : DraftCall) (interpreter : Interpreter) :
    ∃ t, Change.applyAll s (d.change? (.endDraft call interpreter)).toList = .ok t ∧
      (d.step (.endDraft call interpreter)).session.schema? = some t := by
  simp only [change?, redraft?, step]
  by_cases hcall : .draft call ∈ d.calls
  · rw [if_pos hcall]
    have hsession : session ⟨(d.workflow.endDraft interpreter call).1, d.calls.erase (.draft call)⟩ =
      d.session.endDraft call (draft d.workflow.supply (interpreter.answer call.task)).1 := rfl
    have hresult : (d.workflow.endDraft interpreter call).2 =
      d.session.draftResult call (draft d.workflow.supply (interpreter.answer call.task)).1 := rfl
    rw [hsession, hresult]
    generalize (draft d.workflow.supply (interpreter.answer call.task)).1 = answer
    by_cases hlive : d.session.outstanding? = some call.token
    · have haction := action_of_live htracked hwell hs hcall hlive
      rw [Session.endDraft_of_live hlive, if_pos ⟨hcall, haction⟩, haction]
      rcases answer with (e | c) | schema
      · exact ⟨s, rfl, hs⟩
      · exact ⟨s, rfl, hs⟩
      · refine ⟨schema, ?_, rfl⟩
        simp only [Session.draftResult, Session.isLive, hlive, decide_true]
        exact Change.applyAll_singleton s _
    · rw [Session.endDraft_of_stale hlive, Session.draftResult_of_stale hlive]
      refine ⟨s, ?_, hs⟩
      split <;> rcases answer with (e | c) | schema <;> rfl
  · rw [if_neg hcall, if_neg (fun h => hcall h.1)]
    exact ⟨s, rfl, hs⟩

/-- **An event makes the change that it brings**, and starting over apart, nothing else happens to the schema. -/
theorem schema?_step {d : Desk} (htracked : d.Tracked) (hwell : d.session.WellFormed) {s : Schema}
    (hs : d.session.schema? = some s) {e : Event} (hover : e ≠ .startOver) :
    ∃ t, Change.applyAll s (d.change? e).toList = .ok t ∧ (d.step e).session.schema? = some t := by
  have hkept : (∀ x, e ≠ .edit x) → (∀ call interpreter, e ≠ .endDraft call interpreter) →
      (d.step e).session.schema? = some s := fun hedit hdraft =>
    (schema?_of_effect hedit hdraft hover (effect_step d e)).trans hs
  cases e with
  | edit e => exact schema?_of_edit hs e
  | endDraft call interpreter => exact schema?_of_endDraft htracked hwell hs call interpreter
  | startOver => exact absurd rfl hover
  | submit prompt hints => exact ⟨s, rfl, hkept nofun nofun⟩
  | regenerate feedback => exact ⟨s, rfl, hkept nofun nofun⟩
  | confirm => exact ⟨s, rfl, hkept nofun nofun⟩
  | endReport call pipeline => exact ⟨s, rfl, hkept nofun nofun⟩
  | revise => exact ⟨s, rfl, hkept nofun nofun⟩

/-! ## What a run changes -/

theorem schema?_run : ∀ (events : List Event) {d : Desk} {s : Schema}, d.Tracked → d.session.WellFormed →
    d.session.schema? = some s → (∀ e ∈ events, e ≠ .startOver) →
    ∃ t, Change.applyAll s (d.changes events) = .ok t ∧ (d.run events).session.schema? = some t
  | [], _, s, _, _, hs, _ => ⟨s, Change.applyAll_nil s, hs⟩
  | e :: events, d, s, htracked, hwell, hs, hover => by
    obtain ⟨hover, hovers⟩ := List.forall_mem_cons.1 hover
    obtain ⟨t, ht, hstep⟩ := schema?_step htracked hwell hs hover
    have heffect := effect_step d e
    obtain ⟨u, hu, hrun⟩ := schema?_run events (htracked.effect heffect) (wellFormed_effect htracked hwell heffect)
      hstep hovers
    exact ⟨u, Change.applyAll_append ht hu, hrun⟩

/-- **From a mockup on the schema is never lost, and only its changes alter it.**  After any run without starting over,
the schema is the first one with the edits that succeeded and the drafts that were applied, in the order in which they
took effect; and an event that brings no such change leaves it as it is. -/
theorem schema_of_changes (id? : Option String) (before : List Event) :
    let d := (start id?).run before
    d.session.phase = .mockup → ∀ events : List Event, (∀ e ∈ events, e ≠ .startOver) →
      ∃ first last, d.session.schema? = some first ∧ Change.applyAll first (d.changes events) = .ok last ∧
        (d.run events).session.schema? = some last ∧
        ∀ e, e ≠ .startOver → (d.run events).change? e = none →
          ((d.run events).step e).session.schema? = some last := by
  intro d hphase events hover
  obtain ⟨htracked, hwell⟩ : d.Tracked ∧ d.session.WellFormed := sound_of_start id? before
  obtain ⟨first, hfirst⟩ := hwell.exists_schema hphase
  obtain ⟨last, hlast, hrun⟩ := schema?_run events htracked hwell hfirst hover
  refine ⟨first, last, hfirst, hlast, hrun, fun e he hnone => ?_⟩
  have hinv := sound_run htracked hwell events
  obtain ⟨t, ht, hstep⟩ := schema?_step hinv.1 hinv.2 hrun he
  rw [hnone] at ht
  rw [hstep, Except.ok.inj ht]

def noteDrafted : List Event := noteEvents.take 2

def pagedNote : Schema := note.setPagination true

def noteReworked : List Event :=
  [.edit (.setPagination true), .regenerate "shorter",
    .endDraft ⟨2, .refine pagedNote "shorter"⟩ (.crashing .cancelled), .confirm,
    .endReport ⟨3, pagedNote⟩ (.failing (.compilation "no space left")), .edit .addField]

theorem schema_of_note : let d := (start (some "s")).run noteDrafted
    d.session.phase = .mockup ∧ (∀ e ∈ noteReworked, e ≠ .startOver) ∧ (d.changes noteReworked).length = 2 ∧
      ∃ last, Change.applyAll note (d.changes noteReworked) = .ok last ∧
        (d.run noteReworked).session.schema? = some last ∧
        ∀ e, e ≠ .startOver → (d.run noteReworked).change? e = none →
          ((d.run noteReworked).step e).session.schema? = some last := by
  have hphase : ((start (some "s")).run noteDrafted).session.phase = .mockup := by decide +kernel
  have hnote : ((start (some "s")).run noteDrafted).session.schema? = some note := by decide +kernel
  have hover : ∀ e ∈ noteReworked, e ≠ .startOver := by simp [noteReworked]
  obtain ⟨first, last, hfirst, hlast⟩ := schema_of_changes (some "s") noteDrafted hphase noteReworked hover
  obtain rfl := Option.some.inj (hnote.symm.trans hfirst)
  exact ⟨hphase, hover, by decide +kernel, last, hlast⟩

end Desk
end Scaffold
