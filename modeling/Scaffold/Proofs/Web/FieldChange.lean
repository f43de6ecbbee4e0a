import Scaffold.Interpreter.Template
import Scaffold.Proofs.Session.Exchange
import Scaffold.Proofs.Session.FieldIds
import Scaffold.Proofs.Text.Parts
import Scaffold.Proofs.Web.Changes
import Scaffold.Proofs.Web.Writing
/-!
# Proofs.Web.FieldChange — a field is changed by a request

A request to change a field finds the field by its path, as an id holds no slash (`route_fieldChange`).  What comes of
it is what comes of an update with the keys of the body that are known, and the answer says so if it can be written
(`answers_fieldChange`); what the update succeeds with can be told from the body alone
(`Schema.exists_updateField_iff`).  So it is after any run (`field_changed_as_updated`).
-/
namespace Scaffold

/-! ## The path of a field -/

namespace Supply

theorem digitChar_ne_slash : ∀ d < 16, Nat.digitChar d ≠ '/' := by decide

theorem slash_not_mem_toDigits (n : Nat) : '/' ∉ Nat.toDigits 16 n := by
  induction n using Nat.strongRecOn with
  | ind n ih =>
    rw [Nat.toDigits_eq_if (by decide)]
    split
    · rename_i hlt
      intro h
      exact digitChar_ne_slash n hlt (List.mem_singleton.1 h).symm
    · rename_i hge
      intro h
      rcases List.mem_append.1 h with h | h
      · exact ih (n / 16) (by omega) h
      · exact digitChar_ne_slash (n % 16) (Nat.mod_lt n (by decide)) (List.mem_singleton.1 h).symm

theorem slash_not_mem_idOf (n : Nat) : '/' ∉ (idOf n).toList := by
  rw [idOf, String.toList_ofList, List.mem_append, not_or]
  refine ⟨fun h => ?_, slash_not_mem_toDigits n⟩
  exact absurd (List.eq_of_mem_replicate h) (by decide)

theorem idOf_ne_empty (n : Nat) : (idOf n).isEmpty = false := by
  rw [String.isEmpty_eq_false_iff]
  intro h
  have hnil := congrArg String.toList h
  rw [idOf, String.toList_ofList] at hnil
  exact absurd hnil (List.append_ne_nil_of_right_ne_nil _ Nat.toDigits_ne_nil)

end Supply

namespace Web

/-- **A request to change a field.** -/
def fieldChange (id : String) (body : List Char) : Request := ⟨"PATCH", ("/v1/session/fields/" ++ id).toList, body⟩

theorem route_fieldChange {id : String} (hslash : '/' ∉ id.toList) (hne : id.isEmpty = false) (body : List Char) :
    route (fieldChange id body).method (fieldChange id body).path = .found (.updateField id) := by
  have hfront : Text.split '/' "/v1/session/fields".toList = ["", "v1", "session", "fields"].map String.toList := by
    decide
  have hsegments : (Text.split '/' (fieldChange id body).path).map String.ofList =
      ["", "v1", "session", "fields"] ++ [id] := by
    have hpath : (fieldChange id body).path = "/v1/session/fields".toList ++ '/' :: id.toList := by
      rw [fieldChange, String.toList_append]
      rfl
    have hid : Text.split '/' id.toList = [id].map String.toList := Text.split_of_not_mem hslash
    have hback : ∀ l : List String, (l.map String.toList).map String.ofList = l := fun l => by simp
    rw [hpath, Text.split_append, hid, hfront, ← List.map_append, hback]
  have hfield : Resource.ofSegments? (["", "v1", "session", "fields"] ++ [id]) =
      if id.isEmpty then none else some (.field id) := rfl
  have hresource : Resource.at? (fieldChange id body).path = some (.field id) := by
    unfold Resource.at?
    dsimp only
    rw [hsegments, hfield, hne]
    rfl
  rw [route, hresource]
  rfl

end Web

/-! ## The update of a schema -/

namespace Web.Payload

variable {m c : Json.Members}

theorem mem_knownKeys_of_changes (h : changes m = .ok c) : ∀ e ∈ c, e.1 ∈ knownKeys := by
  intro e he
  obtain ⟨name, hname, heq⟩ := named_of_changes h e he
  have hknown : ∀ name ∈ changeNames, Wording.ofText name ∈ knownKeys := by decide
  rw [heq]
  exact hknown name hname

theorem mem_knownKeys_of_known (m : Json.Members) : ∀ e ∈ known m, e.1 ∈ knownKeys := by
  intro e he
  exact of_decide_eq_true (List.mem_filter.1 he).2

theorem check_of_mem_knownKeys (h : ∀ e ∈ c, e.1 ∈ knownKeys) : Operands.ofUpdate.check c = .ok () := by
  have hapart : ∀ key ∈ knownKeys, ∀ name ∈ Operands.ofUpdate.names, key ≠ Wording.ofText name := by decide
  exact Operands.check_eq_ok_iff.2 (fun e he => hapart e.1 (h e he))

theorem wellNamed_of_changes (id : String) (h : changes m = .ok c) : (Edit.updateField id c).WellNamed := by
  have hapart : ∀ key ∈ knownKeys, ∀ name ∈ Edit.operandNames, key ≠ Wording.ofText name := by decide
  exact fun e he => hapart e.1 (mem_knownKeys_of_changes h e he)

end Web.Payload

namespace Schema

open Web

variable {s t : Schema} {id : String} {m c c' : Json.Members}

theorem updateFields_congr (h : ∀ f : Field, f.update c = f.update c') : ∀ l : List Field,
    updateFields id c l = updateFields id c' l
  | [] => rfl
  | f :: l => by rw [updateFields, updateFields, h f, updateFields_congr h l]

theorem exists_of_updateFields_eq_error {e : EditError} : ∀ {l : List Field}, (id : Wording) ∈ l.map Field.id →
    updateFields id c l = .error e → ∃ f : Field, ∃ issues, f.update c = .refused issues ∧ e = .invalidField issues
  | [], hid, _ => by cases hid
  | f :: l, hid, h => by
    unfold updateFields at h
    split at h
    · split at h
      · cases h
      · rename_i issues hissues
        exact ⟨f, issues, hissues, (Except.error.inj h).symm⟩
    · rename_i hne
      have hrest : (id : Wording) ∈ l.map Field.id := (List.mem_cons.1 hid).resolve_left (fun heq => hne heq.symm)
      exact exists_of_updateFields_eq_error hrest (Sequence.map_eq_error_iff.1 h)

theorem exists_of_updateField_eq_error {e : EditError} (hcheck : Operands.ofUpdate.check c = .ok ())
    (hid : (id : Wording) ∈ s.ids) (h : s.updateField id c = .error e) :
    ∃ f : Field, ∃ issues, f.update c = .refused issues ∧ e = .invalidField issues := by
  rw [updateField_eq s id hcheck] at h
  exact exists_of_updateFields_eq_error hid (Sequence.map_eq_error_iff.1 h)

theorem exists_updateField_iff (hkeys : (c.map Prod.fst).Nodup) (hcheck : Operands.ofUpdate.check c = .ok ())
    (hid : (id : Wording) ∈ s.ids) :
    (∃ t, s.updateField id c = .ok t) ↔ ∀ a v, Attribute.given? a c = some v → a.accepts v = true := by
  constructor
  · rintro ⟨t, ht⟩
    rw [updateField_eq s id hcheck] at ht
    obtain ⟨r, hr, -⟩ := Sequence.map_eq_ok_iff.1 ht
    obtain ⟨-, f, g, -, -, -, -, -, hg⟩ := updateFields_eq_ok_iff.1 hr
    exact (f.exists_update_iff hkeys).1 ⟨g, hg⟩
  · intro h
    cases hupdate : s.updateField id c with
    | ok t => exact ⟨t, rfl⟩
    | error e =>
      obtain ⟨f, issues, hissues, -⟩ := exists_of_updateField_eq_error hcheck hid hupdate
      obtain ⟨g, hg⟩ := (f.exists_update_iff hkeys).2 h
      rw [hg] at hissues
      cases hissues

theorem updateField_of_changes (s : Schema) (id : String) (hm : (m.map Prod.fst).Nodup)
    (h : Payload.changes m = .ok c) : s.updateField id c = s.updateField id (Payload.known m) := by
  rw [updateField_eq s id (Payload.check_of_mem_knownKeys (Payload.mem_knownKeys_of_changes h)),
    updateField_eq s id (Payload.check_of_mem_knownKeys (Payload.mem_knownKeys_of_known m)),
    updateFields_congr (fun f => f.update_of_changes hm h)]

theorem default_of_updateField (hkeys : (c.map Prod.fst).Nodup) (hnull : Attribute.default.given? c = some .null)
    (h : s.updateField id c = .ok t) : ∃ g, t.field? id = some g ∧ g.default? = none := by
  obtain ⟨-, hcheck, h⟩ := Sequence.bind_eq_ok_iff.1 h
  obtain ⟨r, hr, h⟩ := Sequence.bind_eq_ok_iff.1 h
  obtain rfl := Except.ok.inj h
  obtain ⟨before, f, g, after, -, rfl, hbefore, hf, hg⟩ := updateFields_eq_ok_iff.1 hr
  refine ⟨g, ?_, ?_⟩
  · have hnone : before.find? (fun e => e.id = (id : Wording)) = none :=
      List.find?_eq_none.2 (fun e he => by simpa using hbefore e he)
    have hid : g.id = (id : Wording) := (Field.id_of_update hg).trans hf
    rw [field?, List.find?_append, hnone, Option.none_or, List.find?_cons, decide_eq_true hid]
  · obtain ⟨-, -, -, -, -, hdefault, -⟩ := (Field.update_eq_ok_iff hkeys).1 hg
    rw [← Attribute.given?_default, hnull] at hdefault
    exact (Checked.ok.inj hdefault).symm

end Schema

/-! ## The answer -/

namespace Web

variable {w : Workflow} {s : Schema} {id : String} {body : List Char} {m c : Json.Members}

theorem read_changes_eq (hbody : Payload.value? body = .ok (some (.obj m))) :
    Payload.read Payload.changes body = (Payload.changes m).toExcept.mapError .invalid := by
  rw [Payload.read, hbody]
  rfl

theorem receive_of_refused (hslash : '/' ∉ id.toList) (hne : id.isEmpty = false) {issues : List Issue}
    (hbody : Payload.value? body = .ok (some (.obj m))) (h : Payload.changes m = .refused issues) (w : Workflow) :
    Server.receive w (fieldChange id body) = .answered w (.invalidRequest issues) := by
  have hread : Payload.read Payload.changes body = .error (.invalid issues) := by
    rw [read_changes_eq hbody, h]
    rfl
  rw [Server.receive, route_fieldChange hslash hne]
  exact Server.carrying_of_error hread

theorem receive_of_changes (hslash : '/' ∉ id.toList) (hne : id.isEmpty = false)
    (hbody : Payload.value? body = .ok (some (.obj m))) (h : Payload.changes m = .ok c)
    (hphase : w.session.phase = .mockup) (hschema : w.session.schema? = some s) :
    Server.receive w (fieldChange id body) =
      match s.updateField id c with
      | .ok t => .answered (w.holding (t, w.supply)) (.session (w.holding (t, w.supply)).session)
      | .error e => .answered w (.ofMockupError (.edit e)) := by
  have hread : Payload.read Payload.changes body = .ok c := by
    rw [read_changes_eq hbody, h]
    rfl
  have hw : w.holding (s, w.supply) = w := by
    unfold Workflow.holding
    rw [← hschema]
  have hoperands := (Session.checkOperands_eq_ok_iff _).2 (Payload.wellNamed_of_changes id h)
  have hedit := Workflow.edit_holding hphase hoperands (s, w.supply)
  rw [hw] at hedit
  rw [Server.receive, route_fieldChange hslash hne]
  refine (Server.carrying_of_ok hread).trans ?_
  rw [Server.edited, hedit, Schema.edited, Schema.apply]
  cases s.updateField id c <;> rfl

/-- **The answer to a change of a field**, given what comes of the update with what the body holds under known keys. -/
structure Answers (w : Workflow) (m : Json.Members) (result : Except EditError Schema) (answer : Workflow × Response) :
    Prop where
  /-- If the update succeeds, its schema is shown from then on. -/
  stored : ∀ t, result = .ok t → answer.1 = w.holding (t, w.supply) ∧ answer.2 = .session answer.1.session
  /-- The answer then says so exactly if no text of the schema holds half of a pair. -/
  success : ∀ t, result = .ok t → answer.2.status = if t.wordings.all Wording.isWhole then 200 else 500
  /-- If it does not succeed, nothing is changed. -/
  kept : ∀ e, result = .error e → answer.1 = w
  /-- The answer then says so exactly if each value that its attribute cannot have can be shown. -/
  refusal : ∀ e, result = .error e → (answer.2.status = 422 ∨ answer.2.status = 500) ∧ (answer.2.status = 422 ↔
    ∀ a v, Attribute.given? a m = some v → a.accepts v = false → v.withoutReserved.isWritable = true)

theorem shown_iff (m : Json.Members) :
    (∀ a v, Attribute.given? a m = some v → a.passed? v = none → v.withoutReserved.isWritable = true) ↔
      ∀ a v, Attribute.given? a m = some v → a.accepts v = false → v.withoutReserved.isWritable = true := by
  refine forall_congr' (fun a => forall_congr' (fun v => imp_congr_right (fun _ => ?_)))
  have hiff := a.passed?_isSome_iff v
  constructor
  · intro h hnot
    by_cases hv : v = .null
    · subst hv
      rfl
    · refine h (Option.not_isSome_iff_eq_none.1 (fun hsome => ?_))
      exact (hiff.1 hsome).elim hv (fun haccepts => by rw [hnot] at haccepts; cases haccepts)
  · intro h hnone
    refine h (Bool.eq_false_iff.2 (fun haccepts => ?_))
    have hsome := hiff.2 (.inr haccepts)
    rw [hnone] at hsome
    cases hsome

theorem all_isShowable_iff {issues : List Issue} (h : Payload.changes m = .refused issues) :
    issues.all Issue.isShowable = true ↔
      ∀ a v, Attribute.given? a m = some v → a.accepts v = false → v.withoutReserved.isWritable = true := by
  rw [← shown_iff, ← Payload.forall_issue_iff m (fun v => v.withoutReserved.isWritable = true), h]
  exact List.all_eq_true

theorem updateField_ne_ok_of_refused (hm : (m.map Prod.fst).Nodup) (hid : (id : Wording) ∈ s.ids) {issues : List Issue}
    (h : Payload.changes m = .refused issues) (t : Schema) : s.updateField id (Payload.known m) ≠ .ok t := by
  intro ht
  have haccepts := (Schema.exists_updateField_iff (Payload.nodup_known hm)
    (Payload.check_of_mem_knownKeys (Payload.mem_knownKeys_of_known m)) hid).1 ⟨t, ht⟩
  simp only [Attribute.given?_known] at haccepts
  have hpassed : ∀ a v, Attribute.given? a m = some v → (a.passed? v).isSome = true :=
    fun a v hv => (a.passed?_isSome_iff v).2 (.inr (haccepts a v hv))
  rw [Payload.changes_eq_ok_iff.2 ⟨hpassed, rfl⟩] at h
  cases h

theorem status_of_updateField_eq_error (hid : (id : Wording) ∈ s.ids) (h : Payload.changes m = .ok c) {e : EditError}
    (he : s.updateField id c = .error e) : (Response.ofMockupError (.edit e)).status = 422 := by
  obtain ⟨f, issues, hissues, rfl⟩ := Schema.exists_of_updateField_eq_error
    (Payload.check_of_mem_knownKeys (Payload.mem_knownKeys_of_changes h)) hid he
  have hnull := f.input_of_update h
  rw [hissues] at hnull
  rw [Response.ofMockupError, Response.status_invalidEdit, if_pos]
  exact List.all_eq_true.2 (fun i hi => by rw [hnull i hi]; rfl)

/-- **A mockup's field is changed by a request as by an update**, whatever the body holds. -/
theorem answers_fieldChange (hphase : w.session.phase = .mockup) (hschema : w.session.schema? = some s)
    (hnone : w.session.outcome? = none) (hslash : '/' ∉ id.toList) (hne : id.isEmpty = false)
    (hid : (id : Wording) ∈ s.ids) (hbody : Payload.value? body = .ok (some (.obj m))) (hm : (m.map Prod.fst).Nodup)
    (interpreter : Interpreter) (pipeline : Pipeline) :
    Answers w m (s.updateField id (Payload.known m)) (Server.handle w interpreter pipeline (fieldChange id body)) := by
  cases hchanges : Payload.changes m with
  | refused issues =>
    have hanswer : Server.handle w interpreter pipeline (fieldChange id body) = (w, .invalidRequest issues) := by
      rw [Server.handle, receive_of_refused hslash hne hbody hchanges]
    have hnot := updateField_ne_ok_of_refused hm hid hchanges
    rw [hanswer]
    refine ⟨fun t ht => absurd ht (hnot t), fun t ht => absurd ht (hnot t), fun _ _ => rfl, fun _ _ => ?_⟩
    rw [← all_isShowable_iff hchanges, Response.status_invalidRequest]
    cases issues.all Issue.isShowable <;> simp
  | ok c =>
    have hsame := s.updateField_of_changes id hm hchanges
    have hreceive := receive_of_changes hslash hne hbody hchanges hphase hschema
    rw [hsame] at hreceive
    rw [Server.handle, hreceive]
    cases hresult : s.updateField id (Payload.known m) with
    | ok t =>
      refine ⟨fun u hu => ?_, fun u hu => ?_, fun e he => (by cases he), fun e he => (by cases he)⟩
      · obtain rfl := Except.ok.inj hu
        exact ⟨rfl, rfl⟩
      · obtain rfl := Except.ok.inj hu
        exact Response.status_session rfl hnone
    | error e =>
      have hstatus := status_of_updateField_eq_error hid hchanges (hsame.trans hresult)
      refine ⟨fun t ht => (by cases ht), fun t ht => (by cases ht), fun _ _ => rfl, fun _ _ => ?_⟩
      refine ⟨.inl hstatus, iff_of_true hstatus ((shown_iff m).1 (fun a v hv hnone => ?_))⟩
      have hsome := (Payload.changes_eq_ok_iff.1 hchanges).1 a v hv
      rw [hnone] at hsome
      cases hsome

theorem passed_on_iff (hbody : Payload.value? body = .ok (some (.obj m))) (hslash : '/' ∉ id.toList)
    (hne : id.isEmpty = false) (h : Server.requested? (fieldChange id body) = some (.edit (.updateField id c)))
    (key : Wording) : key ∈ c.map Prod.fst ↔ ∃ a : Attribute, key = a.changeName ∧ (a.given? m).isSome = true := by
  have hasked : Server.asked? body (.updateField id) = some (.edit (.updateField id c)) := by
    rw [Server.requested?, route_fieldChange hslash hne] at h
    exact h
  obtain ⟨changes, hread, hevent⟩ := Option.map_eq_some_iff.1 hasked
  obtain rfl : changes = c := by
    injection hevent with hevent
    injection hevent
  rw [Sequence.toOption_eq_some_iff, read_changes_eq hbody, Sequence.mapError_eq_ok_iff,
    Checked.toExcept_eq_ok_iff] at hread
  obtain ⟨hpassed, rfl⟩ := Payload.changes_eq_ok_iff.1 hread
  simp only [List.mem_map, List.mem_filterMap]
  constructor
  · rintro ⟨_, ⟨a, -, ha⟩, rfl⟩
    obtain ⟨j, hj, rfl⟩ := Option.map_eq_some_iff.1 ha
    obtain ⟨v, hv, -⟩ := Option.bind_eq_some_iff.1 hj
    exact ⟨a, rfl, Option.isSome_iff_exists.2 ⟨v, hv⟩⟩
  · rintro ⟨a, rfl, hgiven⟩
    obtain ⟨v, hv⟩ := Option.isSome_iff_exists.1 hgiven
    obtain ⟨j, hj⟩ := Option.isSome_iff_exists.1 (hpassed a v hv)
    exact ⟨_, ⟨a, a.mem_all, Option.map_eq_some_iff.2 ⟨j, Option.bind_eq_some_iff.2 ⟨v, hv, hj⟩, rfl⟩⟩, rfl⟩

theorem keyed_of_value? (h : Payload.value? body = .ok (some (.obj m))) : (m.map Prod.fst).Nodup := by
  unfold Payload.value? at h
  split at h
  · cases h
  · split at h
    · rename_i v hv
      obtain rfl := Option.some.inj (Except.ok.inj h)
      exact (Json.keyed_of_ofBytes hv).nodup
    · cases h
    · cases h

/-- **A request changes a field of the mockup as an update does**, after any run, for each field that is there and each
body that holds an object.  What counts of the body are the keys that are known: the update with them succeeds exactly
if the field can have every value that is given; then its schema is stored, and else nothing is changed.  Success is
answered with 200 unless a text of the schema holds half of a pair, and failure with 422 unless a value that the field
cannot have cannot be shown; then the answer fails.  Nothing is passed on for a key that is absent, null clears the
default value, and no other attribute can be null. -/
theorem field_changed_as_updated (id? : Option String) (events : List Event) (interpreter : Interpreter)
    (pipeline : Pipeline) :
    let d := (Desk.start id?).run events
    d.session.phase = .mockup → ∃ s, d.session.schema? = some s ∧
      ∀ (id : String) (body : List Char) (m : Json.Members), (id : Wording) ∈ s.ids →
        Payload.value? body = .ok (some (.obj m)) →
        let result := s.updateField id (Payload.known m)
        Answers d.workflow m result (Server.handle d.workflow interpreter pipeline (fieldChange id body)) ∧
        ((∃ t, result = .ok t) ↔ ∀ a v, Attribute.given? a m = some v → a.accepts v = true) ∧
        (∀ c, Server.requested? (fieldChange id body) = some (.edit (.updateField id c)) → ∀ key,
          key ∈ c.map Prod.fst ↔ ∃ a : Attribute, key = a.changeName ∧ (a.given? m).isSome = true) ∧
        (Attribute.default.given? m = some .null →
          ∀ t, result = .ok t → ∃ g, t.field? id = some g ∧ g.default? = none) ∧
        (∀ a, Attribute.given? a m = some .null → a ≠ .default → ∃ e, result = .error e) := by
  intro d hphase
  obtain ⟨-, hwell⟩ : d.Tracked ∧ d.session.WellFormed := Desk.sound_of_start id? events
  obtain ⟨s, hschema⟩ := hwell.exists_schema hphase
  have hnone : d.session.outcome? = none := by
    refine Option.not_isSome_iff_eq_none.1 (fun hsome => ?_)
    rw [hwell.outcome.1 hsome] at hphase
    cases hphase
  refine ⟨s, hschema, fun id body m hid hbody => ?_⟩
  intro result
  have hm := keyed_of_value? hbody
  have hknown := Payload.nodup_known hm
  obtain ⟨n, -, hn⟩ := (Desk.fresh_run id? events).drawn s hschema id hid
  obtain rfl : id = Supply.idOf n := by
    have hshown := congrArg Wording.shown hn
    rwa [Wording.shown_ofText, Wording.shown_ofText] at hshown
  have hslash := Supply.slash_not_mem_idOf n
  have hne := Supply.idOf_ne_empty n
  have hiff := Schema.exists_updateField_iff hknown
    (Payload.check_of_mem_knownKeys (Payload.mem_knownKeys_of_known m)) hid
  simp only [Attribute.given?_known] at hiff
  refine ⟨answers_fieldChange hphase hschema hnone hslash hne hid hbody hm interpreter pipeline, hiff, ?_, ?_, ?_⟩
  · intro c hc
    exact passed_on_iff hbody hslash hne hc
  · intro hnull t ht
    exact Schema.default_of_updateField hknown ((Attribute.given?_known .default m).trans hnull) ht
  · intro a ha hdefault
    cases hresult : result with
    | error e => exact ⟨e, rfl⟩
    | ok t =>
      have haccepts := hiff.1 ⟨t, hresult⟩ a .null ha
      cases a with
      | default => exact absurd rfl hdefault
      | _ => cases haccepts

open Desk (note noteDrafted)

theorem exists_object_of_any {body : List Char} {p : Json.Members → Bool}
    (h : ((Payload.value? body).toOption.join.bind Json.members?).any p = true) :
    ∃ m, Payload.value? body = .ok (some (.obj m)) ∧ p m = true := by
  cases hvalue : Payload.value? body with
  | error e =>
    rw [hvalue] at h
    cases h
  | ok v? =>
    rw [hvalue] at h
    rcases v? with - | v
    · cases h
    · cases v with
      | obj m => exact ⟨m, rfl, h⟩
      | _ => cases h

def noteDesk : Desk := (Desk.start (some "s")).run noteDrafted

def firstId : String := Supply.idOf 1

def answered (body : List Char) : Workflow × Response :=
  Server.handle noteDesk.workflow Template.interpreter (.standard defaultThreshold) (fieldChange firstId body)

def heading : List Char := "\x7b\"name\":\"heading\",\"indexed\":\"yes\",\"defaultValue\":null\x7d".toList

def headed : Schema :=
  { note with
    fields := [{ id := firstId, name := "heading", label := "Title", required := true, indexed := true }] }

theorem title_changed : noteDesk.session.phase = .mockup ∧ (firstId : Wording) ∈ note.ids ∧
    ∃ m, Payload.value? heading = .ok (some (.obj m)) ∧ note.updateField firstId (Payload.known m) = .ok headed ∧
      (answered heading).1.session.schema? = some headed ∧ (answered heading).2.status = 200 := by
  have hphase : noteDesk.session.phase = .mockup := by decide +kernel
  have hnote : noteDesk.session.schema? = some note := by decide +kernel
  have hid : (firstId : Wording) ∈ note.ids := by decide +kernel
  obtain ⟨m, hbody, hupdate⟩ : ∃ m, Payload.value? heading = .ok (some (.obj m)) ∧
      decide ((note.updateField firstId (Payload.known m)).toOption = some headed) = true :=
    exists_object_of_any (by decide +kernel)
  replace hupdate := Sequence.toOption_eq_some_iff.1 (of_decide_eq_true hupdate)
  obtain ⟨s, hschema, hanswers⟩ := field_changed_as_updated (some "s") noteDrafted Template.interpreter
    (.standard defaultThreshold) hphase
  obtain rfl := Option.some.inj (hnote.symm.trans hschema)
  obtain ⟨hanswer, -⟩ := hanswers firstId heading m hid hbody
  refine ⟨hphase, hid, m, hbody, hupdate, ?_, hanswer.success headed hupdate⟩
  have hstored : (answered heading).1 = _ := (hanswer.stored headed hupdate).1
  rw [hstored]
  rfl

def outsizeName : List Char := "\x7b\"name\":1e999\x7d".toList

def halfName : List Char := "\x7b\"name\":\"\\ud83d\"\x7d".toList

/-- **Not every change is answered as it turned out**: neither the refusal of an outsize number nor the storing of half
of a pair. -/
theorem unwritable_names_fail : noteDesk.session.phase = .mockup ∧ noteDesk.session.schema? = some note ∧
    (firstId : Wording) ∈ note.ids ∧
    (∃ m, Payload.value? outsizeName = .ok (some (.obj m)) ∧
      (note.updateField firstId (Payload.known m)).toOption = none ∧ (answered outsizeName).2.status = 500) ∧
    ∃ m, Payload.value? halfName = .ok (some (.obj m)) ∧
      ((note.updateField firstId (Payload.known m)).toOption.isSome = true ∧
        (answered halfName).1.session.schema? = (note.updateField firstId (Payload.known m)).toOption) ∧
      (answered halfName).2.status = 500 := by
  refine ⟨by decide +kernel, by decide +kernel, by decide +kernel, ?_, ?_⟩
  · obtain ⟨m, hbody, hupdate⟩ : ∃ m, Payload.value? outsizeName = .ok (some (.obj m)) ∧
        decide ((note.updateField firstId (Payload.known m)).toOption = none) = true :=
      exists_object_of_any (by decide +kernel)
    exact ⟨m, hbody, of_decide_eq_true hupdate, by decide +kernel⟩
  · obtain ⟨m, hbody, hupdate⟩ : ∃ m, Payload.value? halfName = .ok (some (.obj m)) ∧
        decide ((note.updateField firstId (Payload.known m)).toOption.isSome = true ∧
          (answered halfName).1.session.schema? = (note.updateField firstId (Payload.known m)).toOption) = true :=
      exists_object_of_any (by decide +kernel)
    exact ⟨m, hbody, of_decide_eq_true hupdate, by decide +kernel⟩

end Web
end Scaffold
