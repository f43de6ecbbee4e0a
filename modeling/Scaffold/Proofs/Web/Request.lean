import Scaffold.Proofs.Check
import Scaffold.Proofs.Session.Refusal
import Scaffold.Web.Server
/-!
# Proofs.Web.Request — what a request asks for

A request that finds an endpoint and has the right shape asks for an event of the session (`requested?`), and what is
done then depends on the event alone (`react`).  Any other request is answered at once, and not with a conflict.
-/
namespace Scaffold

namespace Web

/-! ## What is asked for at an endpoint -/

namespace Payload

def changeNames : List String := ["name", "label", "type", "required", "default_value", "indexed"]

def Named (l : Json.Members) : Prop := ∀ c ∈ l, ∃ name ∈ changeNames, c.1 = Wording.ofText name

theorem Named.append {l l' : Json.Members} (h : Named l) (h' : Named l') : Named (l ++ l') := fun c hc =>
  (List.mem_append.1 hc).elim (h c) (h' c)

theorem named_of_change {m l : Json.Members} {name : String} {keys : List String}
    {check : List Step → Json → Checked Json} (h : change m name keys check = .ok l) (hname : name ∈ changeNames) :
    Named l := by
  unfold change Check.optional at h
  split at h
  · obtain ⟨j, -, rfl⟩ := Checked.map_eq_ok_iff.1 h
    intro c hc
    rw [List.mem_singleton.1 hc]
    exact ⟨name, hname, rfl⟩
  · cases h
    exact fun c hc => absurd hc List.not_mem_nil

theorem named_of_changes {m l : Json.Members} (h : changes m = .ok l) : Named l := by
  simp only [changes, Checked.seq_eq_ok_iff, Checked.map_eq_ok_iff] at h
  obtain ⟨_, l6, ⟨_, l5, ⟨_, l4, ⟨_, l3, ⟨_, l2, ⟨l1, h1, rfl⟩, h2, rfl⟩, h3, rfl⟩, h4, rfl⟩, h5, rfl⟩, h6, rfl⟩ := h
  have name := named_of_change h1 (by decide)
  have label := named_of_change h2 (by decide)
  have type := named_of_change h3 (by decide)
  have required := named_of_change h4 (by decide)
  have default := named_of_change h5 (by decide)
  have indexed := named_of_change h6 (by decide)
  exact ((((name.append label).append type).append required).append default).append indexed

theorem exists_members_of_read {α : Type} {shape : Json.Members → Checked α} {body : List Char} {a : α}
    (h : read shape body = .ok a) : ∃ m, shape m = .ok a := by
  obtain ⟨v?, -, hv⟩ := Sequence.bind_eq_ok_iff.1 h
  rw [Sequence.mapError_eq_ok_iff, Checked.toExcept_eq_ok_iff] at hv
  split at hv
  · cases hv
  · exact ⟨_, hv⟩
  · cases hv

end Payload

namespace Server

/-- **The event that is asked for** at an endpoint, unless body or path are not what they should be. -/
def asked? (body : List Char) : Endpoint → Option Event
  | .submit => (Payload.read Payload.prompt body).toOption.map (fun p => .submit p.1 p.2)
  | .regenerate => (Payload.read Payload.feedback body).toOption.map .regenerate
  | .confirm => some .confirm
  | .startOver => some .startOver
  | .revise => some .revise
  | .setEntityName => (Payload.read Payload.entityName body).toOption.map (fun name => .edit (.setEntityName name))
  | .addField => some (.edit .addField)
  | .updateField id => (Payload.read Payload.changes body).toOption.map (fun changes => .edit (.updateField id changes))
  | .removeField id => some (.edit (.removeField id))
  | .toggleOperation name => (Operation.ofName? name).map (fun op => .edit (.toggleOperation (.str op.name)))
  | .setPagination => (Payload.read Payload.enabled body).toOption.map (fun enabled => .edit (.setPagination enabled))
  | .health | .showSession => none

theorem wellNamed_of_read {body : List Char} {changes : Json.Members} (id : String)
    (h : Payload.read Payload.changes body = .ok changes) : (Edit.updateField id changes).WellNamed := by
  obtain ⟨m, hm⟩ := Payload.exists_members_of_read h
  intro c hc operand hoperand
  obtain ⟨name, hname, heq⟩ := Payload.named_of_changes hm c hc
  have hdistinct : ∀ name ∈ Payload.changeNames, ∀ operand ∈ Edit.operandNames,
      Wording.ofText name ≠ Wording.ofText operand := by decide
  rw [heq]
  exact hdistinct name hname operand hoperand

theorem wellNamed_of_asked? {body : List Char} {endpoint : Endpoint} {e : Event} (h : asked? body endpoint = some e) :
    e.WellNamed := by
  cases endpoint with
  | updateField id =>
    obtain ⟨changes, hread, rfl⟩ := Option.map_eq_some_iff.1 h
    exact wellNamed_of_read id (Sequence.toOption_eq_some_iff.1 hread)
  | submit | regenerate | setEntityName | setPagination | toggleOperation name =>
    obtain ⟨a, -, rfl⟩ := Option.map_eq_some_iff.1 h
    trivial
  | confirm | startOver | revise | addField | removeField id =>
    obtain rfl := Option.some.inj h
    trivial
  | health | showSession => cases h

/-- **What is done with an event that is asked for.** -/
def react (w : Workflow) : Event → Reception
  | .submit prompt hints => waiting w .drafting (w.submit prompt hints)
  | .regenerate feedback => waiting w .drafting (w.regenerate feedback)
  | .confirm => waiting w .reporting w.confirm
  | .startOver => .answered w.startOver (.session w.startOver.session)
  | .revise =>
    match w.revise with
    | .ok w => .answered w (.session w.session)
    | .error r => .answered w (.conflict r)
  | .edit e => edited w e
  | .endDraft .. | .endReport .. => .answered w (.session w.session)

end Server

/-! ## What does not ask for anything -/

namespace Response

theorem status_ofJson (status : Nat) (v : Json) :
    (ofJson status v).status = status ∨ (ofJson status v).status = 500 := by
  unfold ofJson
  split
  · exact .inl rfl
  · exact .inr rfl

theorem status_ofJson_ne {status other : Nat} (v : Json) (h : status ≠ other) (hfailed : 500 ≠ other) :
    (ofJson status v).status ≠ other := by
  rcases status_ofJson status v with hs | hs <;> rw [hs]
  · exact h
  · exact hfailed

@[simp] theorem status_detail (status : Nat) (text : String) : (detail status text).status = status := by
  have hwhole : (Json.obj [("detail", .str text)]).isWhole = true := by
    simp [Json.isWhole, Json.membersWhole]
  have hfinite : (Json.obj [("detail", .str text)]).isFinite = true := by
    simp [Json.isFinite, Json.membersFinite]
  rw [detail, ofJson, hwhole, hfinite]
  rfl

theorem status_invalidRequest_ne (issues : List Issue) : (invalidRequest issues).status ≠ 409 :=
  status_ofJson_ne _ (by decide) (by decide)

theorem status_ofBodyError_ne (e : BodyError) : (ofBodyError e).status ≠ 409 := by
  cases e with
  | unreadable => simp [ofBodyError]
  | invalid issues => exact status_invalidRequest_ne issues

end Response

namespace Server

theorem carrying_of_ok {α : Type} {w : Workflow} {shape : Json.Members → Checked α} {body : List Char}
    {use : α → Reception} {a : α} (h : Payload.read shape body = .ok a) : carrying w shape body use = use a := by
  rw [carrying, h]

theorem carrying_of_error {α : Type} {w : Workflow} {shape : Json.Members → Checked α} {body : List Char}
    {use : α → Reception} {e : BodyError} (h : Payload.read shape body = .error e) :
    carrying w shape body use = .answered w (.ofBodyError e) := by
  rw [carrying, h]

theorem carrying_eq {α : Type} (w : Workflow) (shape : Json.Members → Checked α) (body : List Char)
    (event : α → Event) :
    (∀ e, (Payload.read shape body).toOption.map event = some e →
      carrying w shape body (fun a => react w (event a)) = react w e) ∧
    ((Payload.read shape body).toOption.map event = none →
      ∃ r, carrying w shape body (fun a => react w (event a)) = .answered w r ∧ r.status ≠ 409) := by
  cases h : Payload.read shape body with
  | ok a =>
    refine ⟨fun e he => ?_, fun hnone => by cases hnone⟩
    obtain rfl := Option.some.inj he
    exact carrying_of_ok h
  | error e =>
    refine ⟨fun e he => (by cases he), fun _ => ?_⟩
    exact ⟨_, carrying_of_error h, Response.status_ofBodyError_ne e⟩

theorem perform_eq (w : Workflow) (body : List Char) (endpoint : Endpoint) :
    (∀ e, asked? body endpoint = some e → perform w body endpoint = react w e) ∧
    (asked? body endpoint = none → ∃ r, perform w body endpoint = .answered w r ∧ r.status ≠ 409) := by
  cases endpoint with
  | submit => exact carrying_eq w Payload.prompt body (fun p => .submit p.1 p.2)
  | regenerate => exact carrying_eq w Payload.feedback body .regenerate
  | setEntityName => exact carrying_eq w Payload.entityName body (fun name => .edit (.setEntityName name))
  | updateField id => exact carrying_eq w Payload.changes body (fun changes => .edit (.updateField id changes))
  | setPagination => exact carrying_eq w Payload.enabled body (fun enabled => .edit (.setPagination enabled))
  | confirm | startOver | revise | addField | removeField id =>
    refine ⟨fun e he => ?_, fun hnone => by cases hnone⟩
    obtain rfl := Option.some.inj he
    rfl
  | toggleOperation name =>
    simp only [perform, asked?, Operation.check, Operation.ofJson?, Wording.text?_ofText, Option.bind_some]
    cases Operation.ofName? name with
    | some op => exact ⟨fun e he => Option.some.inj he ▸ rfl, fun hnone => (by cases hnone)⟩
    | none => exact ⟨fun e he => (by cases he), fun _ => ⟨_, rfl, Response.status_invalidRequest_ne _⟩⟩
  | health => exact ⟨fun e he => (by cases he), fun _ => ⟨_, rfl, Response.status_ofJson_ne _ (by decide) (by decide)⟩⟩
  | showSession => exact ⟨fun e he => (by cases he),
    fun _ => ⟨_, rfl, Response.status_ofJson_ne _ (by decide) (by decide)⟩⟩

/-- **The event that a request asks for**, if it finds an endpoint and has the right shape. -/
def requested? (q : Request) : Option Event :=
  match route q.method q.path with
  | .found endpoint => asked? q.body endpoint
  | _ => none

theorem receive_of_requested {q : Request} {e : Event} (h : requested? q = some e) (w : Workflow) :
    receive w q = react w e := by
  unfold requested? at h
  unfold receive
  split at h
  · rename_i endpoint hroute
    rw [hroute]
    exact (perform_eq w q.body endpoint).1 e h
  · cases h

theorem receive_of_not_requested {q : Request} (h : requested? q = none) (w : Workflow) :
    ∃ r, receive w q = .answered w r ∧ r.status ≠ 409 := by
  unfold requested? at h
  unfold receive
  split
  · rename_i endpoint hroute
    rw [hroute] at h
    exact (perform_eq w q.body endpoint).2 h
  · exact ⟨_, rfl, by simp [Response.wrongMethod]⟩
  · exact ⟨_, rfl, by simp [Response.redirect]⟩
  · exact ⟨_, rfl, by simp [Response.notFound]⟩

theorem wellNamed_of_requested {q : Request} {e : Event} (h : requested? q = some e) : e.WellNamed := by
  unfold requested? at h
  split at h
  · exact wellNamed_of_asked? h
  · cases h

end Server

end Web
end Scaffold
