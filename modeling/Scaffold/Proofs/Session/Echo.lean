import Scaffold.Interpreter.Template
import Scaffold.Proofs.Interpreter.ShapeCheck
import Scaffold.Proofs.Schema.RoundTrip
import Scaffold.Proofs.Session.FieldIds
import Scaffold.Proofs.Session.Reply
/-!
# Proofs.Session.Echo — drafts that hand the schema back

The interpreter that needs no service hands a schema back to every feedback, and so may a service (`HandsBack`).
Whatever way it is handed back, the new mockup is the old one under new ids, with labels where there were none
(`regenerate_renews`).
-/
namespace Scaffold

/-- **The answer hands a schema back**: as it is, or as data that reads as the schema. -/
inductive HandsBack (s : Schema) : TaskAnswer → Prop where
  | schema : HandsBack s (.ok (.schema s))
  | data {m : Json.Members} (reads : Schema.ofMembers m = .ok s) : HandsBack s (.ok (.data (.obj m)))

theorem HandsBack.draft_eq {s : Schema} {answer : TaskAnswer} (h : HandsBack s answer) (supply : Supply) :
    draft supply answer = (.ok (s.renewed supply), supply.after s.fields.length) := by
  cases h with
  | schema => simp only [draft, Schema.create_schema]
  | data reads => simp only [draft, Schema.create, Schema.createFromData_of_ofMembers supply reads]

theorem Template.handsBack (s : Schema) (feedback : String) : HandsBack s (interpreter.answer (.refine s feedback)) :=
  .schema

namespace Remote

theorem described_of_mem_fieldObjects {m : Json.Members} {s : Schema} (h : Schema.ofMembers m = .ok s) :
    ∀ f ∈ Schema.fieldObjects m, Described f := by
  obtain ⟨raw, hraw, hpassed⟩ := Schema.exists_rawFields h
  have hall : ∀ v ∈ raw, ∀ f, v.members? = some f → Described f := by
    refine Sequence.forall_mem_of_forall₂ (fun g v ⟨place, hg⟩ f hf => ?_) hpassed.flip
    obtain rfl := Json.members?_eq_some_iff.1 hf
    exact described_of_ofMembers hg
  rw [← Schema.filterMap_rawFields hraw]
  intro f hf
  obtain ⟨v, hv, hmembers⟩ := List.mem_filterMap.1 hf
  exact hall v hv f hmembers

theorem handsBack_of_offers {baseUrl : String} {reply : Request → Reply} {task : Task} {m : Json.Members} {s : Schema}
    (hoffers : Offers baseUrl reply task m) (hreads : Schema.ofMembers m = .ok s) :
    HandsBack s ((interpreter baseUrl reply).answer task) := by
  have hmade := congrArg Prod.fst (Schema.createFromData_of_ofMembers {} hreads)
  obtain ⟨t, hfits⟩ := (exists_fits_iff hoffers.keyed hmade).2 (described_of_mem_fieldObjects hreads)
  rw [answer_of_offers hoffers, hfits]
  exact .data hreads

end Remote

namespace Desk

/-- **The end of a call renews a schema**: it returns that a draft was applied, and the mockup shows the schema under
ids that are new to it. -/
def EndsRenewed (d : Desk) (interpreter : Interpreter) (call : DraftCall) (old : Schema) : Prop :=
  let (w, returned) := d.workflow.endDraft interpreter call
  returned = .ok true ∧ w.session.phase = .mockup ∧
    ∃ t, w.session.schema? = some t ∧ old.Renews t ∧ t.ids.Nodup ∧ ∀ id ∈ t.ids, id ∉ old.ids

theorem endsRenewed_of_engaged {d : Desk} {s : Session} {call : DraftCall} {old : Schema}
    (hs : d.session = s.engaged call.task.action) (htoken : call.token = s.issued + 1) (hold : s.schema? = some old)
    (hfresh : d.Fresh) {interpreter : Interpreter} (hback : HandsBack old (interpreter.answer call.task)) :
    d.EndsRenewed interpreter call old := by
  have hdrafted : d.drafted interpreter call = .ok (old.renewed d.supply) := congrArg Prod.fst (hback.draft_eq _)
  obtain ⟨hended, hreturned⟩ := endDraft_of_engaged hs htoken interpreter
  rw [hdrafted] at hended hreturned
  obtain ⟨hnodup, hnew⟩ := old.roundTrips.fresh d.supply
  have hstays : d.session.schema? = some old := by
    rw [hs]
    exact hold
  exact ⟨hreturned, congrArg Session.phase hended, _, congrArg Session.schema? hended, old.renews_renewed _, hnodup,
    fun id hid hin => hnew id hid (hfresh.drawn old hstays id hin)⟩

/-- **Feedback to which the schema is handed back renews it**, whatever happens until the call ends. -/
theorem regenerate_renews (id? : Option String) (events : List Event) :
    let d := (start id?).run events
    d.session.phase = .mockup → ∃ old, d.session.schema? = some old ∧ ∀ feedback,
      let call : DraftCall := ⟨d.session.issued + 1, .refine old feedback⟩
      let begun := d.step (.regenerate feedback)
      begun.calls = .draft call :: d.calls ∧
        ∀ between, (begun.run between).session.outstanding? = some call.token →
          ∀ interpreter, HandsBack old (interpreter.answer call.task) →
            (begun.run between).EndsRenewed interpreter call old := by
  intro d hphase
  obtain ⟨old, hold⟩ := (sound_of_start id? events).2.exists_schema hphase
  refine ⟨old, hold, fun feedback => ?_⟩
  intro call begun
  obtain ⟨hbegun, hcalls⟩ := begun_regenerate hphase hold feedback
  refine ⟨hcalls, fun between hstill interpreter hback => ?_⟩
  have hout : begun.session.outstanding? = some call.token := by
    rw [hbegun]
    rfl
  have htracked : begun.Tracked := (tracked_run id? events).effect (effect_step d _)
  have hsame := (session_eq_of_pending htracked hout hstill).trans hbegun
  have hfresh : (begun.run between).Fresh := by
    have hrun := fresh_run id? (events ++ .regenerate feedback :: between)
    rwa [run_append] at hrun
  exact endsRenewed_of_engaged hsame rfl hold hfresh hback

/-- **A schema stays what it is when it is handed back.**  It is read back from its data, and what is created from it or
from its data is the schema itself but for new ids and for labels where there were none.  So at a mockup, whatever was
done before, feedback to which the interpreter that needs no service answers, or a service with data that reads as the
schema, as its own data does, leads to a mockup with the same schema but for these. -/
theorem handed_back_schema_stays (id? : Option String) (events : List Event) :
    (∀ s : Schema, s.RoundTrips) ∧
    (∀ (s : Schema) feedback, HandsBack s (Template.interpreter.answer (.refine s feedback)) ∧
      ∀ baseUrl reply m, Remote.Offers baseUrl reply (.refine s feedback) m → Schema.ofMembers m = .ok s →
        HandsBack s ((Remote.interpreter baseUrl reply).answer (.refine s feedback))) ∧
    let d := (start id?).run events
    d.session.phase = .mockup → ∃ old, d.session.schema? = some old ∧ ∀ feedback,
      let call : DraftCall := ⟨d.session.issued + 1, .refine old feedback⟩
      let begun := d.step (.regenerate feedback)
      begun.calls = .draft call :: d.calls ∧
        ∀ between, (begun.run between).session.outstanding? = some call.token →
          ∀ interpreter, HandsBack old (interpreter.answer call.task) →
            (begun.run between).EndsRenewed interpreter call old :=
  ⟨Schema.roundTrips, fun s feedback => ⟨Template.handsBack s feedback, fun _ _ _ => Remote.handsBack_of_offers⟩,
    regenerate_renews id? events⟩

def draftedBook : Schema :=
  { entityName := "Book",
    fields := [{ id := "7", name := "title", label := "Title", default? := some ("-" : Wording) }] }

def bookEvents : List Event :=
  [.submit "books" {}, .endDraft ⟨1, .interpret "books" {}⟩ { answer := fun _ => .ok (.schema draftedBook) },
    .edit .addField, .edit (.updateField (Supply.idOf 1) [("label", .str "")])]

def editedBook : Schema :=
  { entityName := "Book",
    fields := [{ id := Supply.idOf 1, name := "title", default? := some ("-" : Wording) },
      { id := Supply.idOf 2, name := "new_field", label := "New Field" }] }

def bookEcho (_ : Remote.Request) : Remote.Reply := .answered 200 (editedBook.toJson.plain.map Text.Sign.shown)

/-- **The service gives the book back**, and the title gets its label again; meanwhile an edit was tried. -/
theorem edited_book_stays : ((start (some "s")).run bookEvents).session.schema? = some editedBook ∧
    HandsBack editedBook ((Remote.interpreter Remote.serviceUrl bookEcho).answer (.refine editedBook "shorter")) ∧
    ((((start (some "s")).run bookEvents).step (.regenerate "shorter")).run [.edit .addField]).EndsRenewed
      (Remote.interpreter Remote.serviceUrl bookEcho) ⟨2, .refine editedBook "shorter"⟩ editedBook := by
  have hsession : ((start (some "s")).run bookEvents).session =
      { id := "s", phase := .mockup, schema? := some editedBook, issued := 1 } := by decide +kernel
  have hlive : ((((start (some "s")).run bookEvents).step (.regenerate "shorter")).run
      [.edit .addField]).session.outstanding? = some 2 := by decide +kernel
  obtain ⟨m, hoffers, hreads⟩ : ∃ m, Remote.Offers Remote.serviceUrl bookEcho (.refine editedBook "shorter") m ∧
      decide ((Schema.ofMembers m).toExcept.toOption = some editedBook) = true :=
    Remote.exists_offers_of_text (by decide +kernel) (by decide +kernel)
  obtain ⟨-, hhands, hdesk⟩ := handed_back_schema_stays (some "s") bookEvents
  have hback := (hhands editedBook "shorter").2 Remote.serviceUrl bookEcho m hoffers
    (Checked.toExcept_eq_ok_iff.1 (Sequence.toOption_eq_some_iff.1 (of_decide_eq_true hreads)))
  obtain ⟨old, hold, hends⟩ := hdesk (congrArg Session.phase hsession)
  have hbook := congrArg Session.schema? hsession
  obtain rfl := Option.some.inj (hbook.symm.trans hold)
  obtain ⟨-, hends⟩ := hends "shorter"
  replace hends := hends [.edit .addField]
  rw [hsession] at hends
  refine ⟨hbook, hback, ?_⟩
  -- the interpreter is not to be run here
  generalize Remote.interpreter Remote.serviceUrl bookEcho = interpreter at hback ⊢
  exact hends hlive interpreter hback

end Desk
end Scaffold
