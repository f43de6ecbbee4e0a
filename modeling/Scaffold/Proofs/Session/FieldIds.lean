import Scaffold.Proofs.Schema.Ids
import Scaffold.Proofs.Session.History
/-!
# Proofs.Session.FieldIds — the fields of a session and their ids

Whatever a session shows was drawn from its supply, and no two fields have the same id (`Fresh`).  While a schema is
edited its ids are those it began with, then those that were added in order of addition, without those that were taken
away.  A new schema has ids that were never shown before (`field_ids_of_session`).
-/
namespace Scaffold

namespace Change

def added : Change → List Wording
  | .edited supply e => e.added supply
  | .redrafted _ => []

def removed : Change → List Wording
  | .edited _ e => e.removed
  | .redrafted _ => []

def isEdit : Change → Bool
  | .edited .. => true
  | .redrafted _ => false

end Change

/-! ## Drafts -/

theorem ids_of_draft (supply : Supply) (answer : TaskAnswer) :
    supply.drawn ≤ (draft supply answer).2.drawn ∧ ∀ s, (draft supply answer).1 = .ok s →
      s.ids = supply.upcoming s.fields.length ∧ (draft supply answer).2 = supply.after s.fields.length := by
  unfold draft
  cases answer with
  | error e => exact ⟨Nat.le_refl _, fun s h => by cases h⟩
  | ok i =>
    have hcreate := Schema.ids_of_create supply i
    dsimp only
    generalize Schema.create supply i = result at hcreate
    obtain ⟨(e | issues) | s, after⟩ := result
    · exact ⟨hcreate.1, fun s h => by cases h⟩
    · exact ⟨hcreate.1, fun s h => by cases h⟩
    · exact ⟨hcreate.1, fun t h => by cases h; exact hcreate.2 s rfl⟩

theorem fresh_of_draft {supply : Supply} {answer : TaskAnswer} {s : Schema} (h : (draft supply answer).1 = .ok s) :
    s.ids.Nodup ∧ ∀ id ∈ s.ids, (draft supply answer).2.Drawn id := by
  obtain ⟨hids, hafter⟩ := (ids_of_draft supply answer).2 s h
  rw [hids, hafter]
  exact ⟨Supply.nodup_upcoming _ _, fun id hid => (Supply.drawn_of_mem_upcoming hid).2⟩

theorem Session.schema?_endDraft {s : Session} {call : DraftCall} {answer : Except TaskFailure Schema} {t : Schema}
    (h : (s.endDraft call answer).schema? = some t) : s.schema? = some t ∨ answer = .ok t := by
  by_cases hlive : s.outstanding? = some call.token
  · rw [Session.endDraft_of_live hlive] at h
    rcases answer with (e | c) | schema
    · simp only [Session.applyDraft] at h
      split at h
      · cases h
      · exact .inl h
    · exact .inl h
    · exact .inr (congrArg Except.ok (Option.some.inj h))
  · rw [Session.endDraft_of_stale hlive] at h
    exact .inl h

theorem Session.schema?_endReport (s : Session) (call : ReportCall) (answer : Except ReportFailure Outcome) :
    (s.endReport call answer).schema? = s.schema? := by
  unfold Session.endReport
  split
  · rcases answer with (reason | c) | outcome <;> rfl
  · rfl

namespace Desk

def supply (d : Desk) : Supply := d.workflow.supply

/-- **The ids of a session**: no two fields have the same, and all of them were drawn. -/
structure Fresh (d : Desk) : Prop where
  nodup : ∀ s, d.session.schema? = some s → s.ids.Nodup
  drawn : ∀ s, d.session.schema? = some s → ∀ id ∈ s.ids, d.supply.Drawn id

theorem Fresh.kept {d d' : Desk} (h : d.Fresh) (hle : d.supply.drawn ≤ d'.supply.drawn)
    (hschema : ∀ s, d'.session.schema? = some s → d.session.schema? = some s) : d'.Fresh :=
  ⟨fun s hs => h.nodup s (hschema s hs), fun s hs id hid => (h.drawn s (hschema s hs) id hid).mono hle⟩

/-! ## What one event does -/

theorem supply_le_of_effect {d d' : Desk} {e : Event} (he : d.Effect e d') : d.supply.drawn ≤ d'.supply.drawn := by
  cases he with
  | refused => exact Nat.le_refl _
  | @begun _ w _ _ _ _ _ hsupply =>
    show d.workflow.supply.drawn ≤ w.supply.drawn
    rw [hsupply]
  | @draftEnded call interpreter _ => exact (ids_of_draft d.workflow.supply (interpreter.answer call.task)).1
  | reportEnded _ => exact Nat.le_refl _
  | startedOver => exact Nat.le_refl _
  | @revised w _ _ _ hsupply =>
    show d.workflow.supply.drawn ≤ w.supply.drawn
    rw [hsupply]
  | @edited _ w _ _ _ _ hafter _ =>
    show d.workflow.supply.drawn ≤ w.supply.drawn
    rw [(Schema.ids_of_apply hafter).2.1]
    exact Nat.le_add_right _ _

theorem Fresh.effect {d d' : Desk} {e : Event} (h : d.Fresh) (he : d.Effect e d') : d'.Fresh := by
  have hle := supply_le_of_effect he
  cases he with
  | refused => exact h
  | @begun _ w call _ _ _ hsession _ =>
    refine h.kept hle (fun s hs => ?_)
    rw [show session ⟨w, call :: d.calls⟩ = d.session.engaged call.action from hsession] at hs
    exact hs
  | @draftEnded call interpreter _ =>
    refine ⟨fun s hs => ?_, fun s hs => ?_⟩ <;> rcases Session.schema?_endDraft hs with hold | hnew
    · exact h.nodup s hold
    · exact (fresh_of_draft hnew).1
    · exact fun id hid => (h.drawn s hold id hid).mono hle
    · exact (fresh_of_draft hnew).2
  | @reportEnded call pipeline _ =>
    exact h.kept hle (fun s hs => (Session.schema?_endReport d.session call (pipeline.run call.schema)).symm.trans hs)
  | startedOver => exact h.kept hle (fun s hs => by cases hs)
  | @revised w _ _ hsession _ =>
    refine h.kept hle (fun s hs => ?_)
    rw [show session ⟨w, d.calls⟩ = _ from hsession] at hs
    exact hs
  | @edited e w schema after _ hschema hafter hsession =>
    obtain ⟨hnodup, hdrawn⟩ := Schema.fresh_of_apply hafter (h.nodup schema hschema) (h.drawn schema hschema)
    have hafter? : session ⟨w, d.calls⟩ = { d.session with schema? := some after } := hsession
    refine ⟨fun s hs => ?_, fun s hs => ?_⟩ <;> rw [hafter?] at hs <;> obtain rfl := Option.some.inj hs
    · exact hnodup
    · exact hdrawn

theorem fresh_run (id? : Option String) (events : List Event) : ((start id?).run events).Fresh := by
  refine run_induction Fresh (fun _ => True) (fun d e _ h => h.effect (effect_step d e)) events _
    (fun _ _ => trivial) ?_
  obtain ⟨id, hs⟩ := session_start id?
  have hnone : ∀ s, (start id?).session.schema? ≠ some s := fun s h => by
    rw [hs] at h
    cases h
  exact ⟨fun s h => absurd h (hnone s), fun s h => absurd h (hnone s)⟩

theorem supply_le_run (d : Desk) (events : List Event) : d.supply.drawn ≤ (d.run events).supply.drawn :=
  run_induction (fun d' => d.supply.drawn ≤ d'.supply.drawn) (fun _ => True)
    (fun d' e _ h => h.trans (supply_le_of_effect (effect_step d' e))) events d (fun _ _ => trivial) (Nat.le_refl _)

/-! ## Runs of edits -/

def addedIds (changes : List Change) : List Wording := changes.flatMap Change.added

def removedIds (changes : List Change) : List Wording := changes.flatMap Change.removed

theorem supply_of_change? {d : Desk} {e : Event} {supply : Supply} {e' : Edit}
    (h : d.change? e = some (.edited supply e')) : supply = d.workflow.supply := by
  cases e with
  | edit e =>
    simp only [change?] at h
    split at h
    · cases h
      rfl
    · cases h
  | endDraft call interpreter =>
    simp only [change?, redraft?] at h
    split at h
    · split at h <;> cases h
    · cases h
  | _ => cases h

theorem filter_filter_append {old new gone lost : List Wording} (h : ∀ x ∈ new, x ∉ gone) :
    (old.filter (fun x => x ∉ gone) ++ new).filter (fun x => x ∉ lost) =
      (old ++ new).filter (fun x => x ∉ gone ++ lost) := by
  rw [List.filter_append, List.filter_append, List.filter_filter]
  congr 1
  · refine List.filter_congr (fun x _ => ?_)
    simp [Bool.and_comm]
  · refine List.filter_congr (fun x hx => ?_)
    simp [h x hx]

/-- **The ids after an event that brings no new draft**: at most one is added at the end, a new one, and at most one of
those that were there is taken away. -/
theorem ids_step {d : Desk} (htracked : d.Tracked) (hwell : d.session.WellFormed) {s : Schema}
    (hs : d.session.schema? = some s) {e : Event} (hover : e ≠ .startOver)
    (hedits : ∀ c ∈ (d.change? e).toList, c.isEdit = true) :
    ∃ t, (d.step e).session.schema? = some t ∧
      t.ids = (s.ids ++ addedIds (d.change? e).toList).filter (fun x => x ∉ removedIds (d.change? e).toList) ∧
      removedIds (d.change? e).toList ⊆ s.ids ∧ ∀ id ∈ addedIds (d.change? e).toList, ¬ d.supply.Drawn id := by
  obtain ⟨t, ht, hstep⟩ := schema?_step htracked hwell hs hover
  refine ⟨t, hstep, ?_⟩
  cases hc : d.change? e with
  | none =>
    rw [hc] at ht
    obtain rfl := Except.ok.inj ht
    simp [addedIds, removedIds]
  | some c =>
    rw [hc] at ht hedits
    have hedit : c.isEdit = true := hedits c (by simp)
    cases c with
    | redrafted schema => cases hedit
    | edited supply e' =>
      obtain rfl := supply_of_change? hc
      rw [Option.toList_some, Change.applyAll_singleton] at ht
      obtain ⟨⟨_, after⟩, hafter, rfl⟩ := Sequence.map_eq_ok_iff.1 ht
      obtain ⟨hids, -, hremoved⟩ := Schema.ids_of_apply hafter
      simp only [addedIds, removedIds, Option.toList_some, List.flatMap_singleton]
      exact ⟨hids, hremoved, fun id hid => (Edit.drawn_of_mem_added hid).1⟩

/-- **The ids after a run that brings no new draft.**  Those that were taken away can be left out at the end, since none
of them is ever added again. -/
theorem ids_run : ∀ (events : List Event) {d : Desk} {s : Schema}, d.Tracked → d.session.WellFormed → d.Fresh →
    d.session.schema? = some s → (∀ e ∈ events, e ≠ .startOver) → (∀ c ∈ d.changes events, c.isEdit = true) →
    ∃ t, (d.run events).session.schema? = some t ∧
      t.ids = (s.ids ++ addedIds (d.changes events)).filter (fun x => x ∉ removedIds (d.changes events)) ∧
      ∀ id ∈ addedIds (d.changes events), ¬ d.supply.Drawn id
  | [], _, s, _, _, _, hs, _, _ => ⟨s, hs, by simp [changes, addedIds, removedIds], by simp [changes, addedIds]⟩
  | e :: events, d, s, htracked, hwell, hfresh, hs, hover, hedits => by
    obtain ⟨hover, hovers⟩ := List.forall_mem_cons.1 hover
    rw [changes] at hedits ⊢
    obtain ⟨hedit, hedits⟩ := List.forall_mem_append.1 hedits
    have heffect := effect_step d e
    obtain ⟨t, hstep, hids, hremoved, hnew⟩ := ids_step htracked hwell hs hover hedit
    obtain ⟨u, hrun, hrest, hlater⟩ := ids_run events (htracked.effect heffect)
      (wellFormed_effect htracked hwell heffect) (hfresh.effect heffect) hstep hovers hedits
    generalize (d.change? e).toList = first at *
    generalize (d.step e).changes events = later at *
    have hle := supply_le_of_effect heffect
    -- what was taken away first was drawn, and what is added later was not
    have hapart : ∀ x ∈ addedIds later, x ∉ removedIds first := fun x hx hgone =>
      hlater x hx ((hfresh.drawn s hs x (hremoved hgone)).mono hle)
    have hadded : addedIds (first ++ later) = addedIds first ++ addedIds later := List.flatMap_append
    have hgone : removedIds (first ++ later) = removedIds first ++ removedIds later := List.flatMap_append
    refine ⟨u, hrun, ?_, ?_⟩
    · rw [hrest, hids, hadded, hgone, ← List.append_assoc]
      exact filter_filter_append hapart
    · rw [hadded]
      refine List.forall_mem_append.2 ⟨hnew, fun id hid hdrawn => hlater id hid (hdrawn.mono hle)⟩

/-! ## Sessions -/

theorem schema?_of_applied {d : Desk} {call : DraftCall} {interpreter : Interpreter} (hcall : .draft call ∈ d.calls)
    (happlied : (d.workflow.endDraft interpreter call).2 = .ok true) :
    ∃ t, (draft d.workflow.supply (interpreter.answer call.task)).1 = .ok t ∧
      (d.step (.endDraft call interpreter)).session.schema? = some t := by
  have hsession : (d.step (.endDraft call interpreter)).session =
      d.session.endDraft call (draft d.workflow.supply (interpreter.answer call.task)).1 := by
    rw [step, if_pos hcall]
    rfl
  have hresult : (d.workflow.endDraft interpreter call).2 =
    d.session.draftResult call (draft d.workflow.supply (interpreter.answer call.task)).1 := rfl
  rw [hresult] at happlied
  rw [hsession]
  generalize (draft d.workflow.supply (interpreter.answer call.task)).1 = answer at *
  rcases answer with (e | c) | t
  · cases happlied
  · cases happlied
  · have hlive : d.session.outstanding? = some call.token := by
      simpa [Session.draftResult, Session.isLive] using happlied
    exact ⟨t, rfl, by rw [Session.endDraft_of_live hlive]; rfl⟩

theorem run_append (d : Desk) (events more : List Event) : d.run (events ++ more) = (d.run events).run more :=
  List.foldl_append

/-- **The ids of fields over whole sessions.**  After any run no two fields have the same id.  In whatever follows, as
long as no new draft is applied and the session does not start over, the ids are those that were there and those that
edits added, in order of addition, without those that edits took away.  When a draft is applied, be it the first one or
a new one, its ids are none that the session showed before, whatever ids the interpreter answered with. -/
theorem field_ids_of_session (id? : Option String) (events : List Event) :
    let d := (start id?).run events
    (∀ s, d.session.schema? = some s → s.ids.Nodup) ∧
    (∀ s, d.session.schema? = some s → ∀ more : List Event, (∀ e ∈ more, e ≠ .startOver) →
      (∀ c ∈ d.changes more, c.isEdit = true) → ∃ t, (d.run more).session.schema? = some t ∧
        t.ids = (s.ids ++ addedIds (d.changes more)).filter (fun x => x ∉ removedIds (d.changes more))) ∧
    ∀ call interpreter, .draft call ∈ d.calls → (d.workflow.endDraft interpreter call).2 = .ok true →
      ∃ t, (d.step (.endDraft call interpreter)).session.schema? = some t ∧
        ∀ before, before <+: events → ∀ s, ((start id?).run before).session.schema? = some s →
          s.ids.Disjoint t.ids := by
  intro d
  have hfresh : d.Fresh := fresh_run id? events
  refine ⟨hfresh.nodup, fun s hs more hover hedits => ?_, fun call interpreter hcall happlied => ?_⟩
  · obtain ⟨htracked, hwell⟩ := sound_of_start id? events
    obtain ⟨t, ht, hids, -⟩ := ids_run more htracked hwell hfresh hs hover hedits
    exact ⟨t, ht, hids⟩
  · obtain ⟨t, hanswer, ht⟩ := schema?_of_applied hcall happlied
    refine ⟨t, ht, ?_⟩
    rintro before ⟨rest, rfl⟩ s hs id hold hnew
    have hdrawn : ((start id?).run before).supply.Drawn id := (fresh_run id? before).drawn s hs id hold
    have hle : ((start id?).run before).supply.drawn ≤ d.supply.drawn := by
      show _ ≤ ((start id?).run (before ++ rest)).supply.drawn
      rw [run_append]
      exact supply_le_run _ rest
    rw [((ids_of_draft _ _).2 t hanswer).1] at hnew
    exact (Supply.drawn_of_mem_upcoming hnew).1 (hdrawn.mono hle)

def twins (id : String) : Interpreter where
  answer _ := .ok (.schema
    { entityName := "Note", fields := [{ id := id, name := "title" }, { id := id, name := "body" }] })

def twinsDrafted : List Event := [.submit "notes" {}, .endDraft ⟨1, .interpret "notes" {}⟩ (twins "1")]

def twinsEdited : List Event :=
  [.edit .addField, .edit (.updateField (Supply.idOf 3) [("id", .str (Supply.idOf 1)), ("name", .str "date")]),
    .edit (.removeField (Supply.idOf 1))]

def twinsLeft : Schema :=
  { entityName := "Note",
    fields := [{ id := Supply.idOf 2, name := "body", label := "Body" },
      { id := Supply.idOf 3, name := "date", label := "New Field" }] }

def twinsRedrafted : DraftCall := ⟨2, .refine twinsLeft "shorter"⟩

/-- **Ids that an answer repeats or takes over from the session come to nothing.** -/
theorem field_ids_of_twins :
    let drafted := (start (some "s")).run twinsDrafted
    let waiting := (start (some "s")).run (twinsDrafted ++ twinsEdited ++ [.regenerate "shorter"])
    (∃ first, drafted.session.schema? = some first ∧ first.ids = [Supply.idOf 1, Supply.idOf 2].map Wording.ofText) ∧
    (∀ e ∈ twinsEdited, e ≠ .startOver) ∧ (∀ c ∈ drafted.changes twinsEdited, c.isEdit = true) ∧
    addedIds (drafted.changes twinsEdited) = [(Supply.idOf 3 : Wording)] ∧
    removedIds (drafted.changes twinsEdited) = [(Supply.idOf 1 : Wording)] ∧
    (∃ left, (drafted.run twinsEdited).session.schema? = some left ∧
      left.ids = [Supply.idOf 2, Supply.idOf 3].map Wording.ofText) ∧
    .draft twinsRedrafted ∈ waiting.calls ∧
    (waiting.workflow.endDraft (twins (Supply.idOf 2)) twinsRedrafted).2 = .ok true ∧
    ∃ new, (waiting.step (.endDraft twinsRedrafted (twins (Supply.idOf 2)))).session.schema? = some new ∧
      ∀ before, before <+: twinsDrafted ++ twinsEdited ++ [.regenerate "shorter"] →
        ∀ s, ((start (some "s")).run before).session.schema? = some s → s.ids.Disjoint new.ids := by
  intro drafted waiting
  -- evaluated at once, since all of it is about the same two runs
  obtain ⟨hfirst, hall, hadded, hremoved, hcall, happlied⟩ :
      drafted.session.schema?.map Schema.ids = some ([Supply.idOf 1, Supply.idOf 2].map Wording.ofText) ∧
      (drafted.changes twinsEdited).all Change.isEdit = true ∧
      addedIds (drafted.changes twinsEdited) = [(Supply.idOf 3 : Wording)] ∧
      removedIds (drafted.changes twinsEdited) = [(Supply.idOf 1 : Wording)] ∧
      .draft twinsRedrafted ∈ waiting.calls ∧
      (waiting.workflow.endDraft (twins (Supply.idOf 2)) twinsRedrafted).2 = .ok true := by decide +kernel
  obtain ⟨first, hsome, hids⟩ := Option.map_eq_some_iff.1 hfirst
  have hover : ∀ e ∈ twinsEdited, e ≠ .startOver := by simp [twinsEdited]
  have hedits : ∀ c ∈ drafted.changes twinsEdited, c.isEdit = true := List.all_eq_true.1 hall
  obtain ⟨-, hrun, -⟩ := field_ids_of_session (some "s") twinsDrafted
  obtain ⟨left, hleft, hleftIds⟩ := hrun first hsome twinsEdited hover hedits
  obtain ⟨-, -, hnew⟩ := field_ids_of_session (some "s") (twinsDrafted ++ twinsEdited ++ [.regenerate "shorter"])
  refine ⟨⟨first, hsome, hids⟩, hover, hedits, hadded, hremoved, ⟨left, hleft, ?_⟩, hcall, happlied,
    hnew twinsRedrafted (twins (Supply.idOf 2)) hcall happlied⟩
  rw [hleftIds, hids, hadded, hremoved]
  decide +kernel

end Desk
end Scaffold
