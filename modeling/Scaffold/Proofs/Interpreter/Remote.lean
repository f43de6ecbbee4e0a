import Scaffold.Interpreter.Remote
import Scaffold.Proofs.Schema.Record
/-!
# Proofs.Interpreter.Remote — replies that break the interpretation off

What the service replies becomes a schema or a reason, with two exceptions (`Reply.Breaks`): JSON that is nested too
deep, and a schema whose fields cannot be taken one by one, or hold something that the shape check passes over and that
is no record.  A draft ends in a fault exactly for these, or if the address is none (`exists_draft_eq_crash_iff`).
-/
namespace Scaffold
namespace Remote

/-- **A schema with garbled fields**: they hold nothing one after the other, or the shape check finds nothing where one
of them is no record. -/
def Garbled (m : Json.Members) : Prop :=
  (∃ v, m.get? "fields" = some v ∧ v.truthy = true ∧ v.items? = none) ∨
    (∃ s, fits m = .ok (.ok s)) ∧
      ∃ v, m.get? "fields" = some v ∧ v.truthy = true ∧ ∃ l, v.items? = some l ∧ ∃ e ∈ l, ¬ e.IsRecord

/-- **The replies that break the interpretation off**, while they state a success. -/
inductive Reply.Breaks : Reply → Prop where
  | tooDeep {status : Int} {body : List Char} {text : List Text.Sign} {container : Json.Container} :
      isSuccess status = true → Json.ofBytes (Text.bytes body) = .error (.unreadable text (.tooDeep container)) →
      Breaks (.answered status body)
  | garbled {status : Int} {body : List Char} {v : Json} {m : Json.Members} :
      isSuccess status = true → Json.ofBytes (Text.bytes body) = .ok v → schemaOf v = some m → Garbled m →
      Breaks (.answered status body)

def Breaks (baseUrl : String) (reply : Request → Reply) (task : Task) : Prop :=
  ∃ q, request baseUrl task = .ok q ∧ q.url.isAbsolute = true ∧ (reply q).Breaks

/-! ## Garbled fields -/

theorem exists_fits_eq_error_iff (m : Json.Members) :
    (∃ e, fits m = .error e) ↔ ∃ e, Schema.rawFields m = .error e := by
  simp [fits, fieldRecords, Sequence.map_eq_error_iff]

theorem garbled_iff (m : Json.Members) (supply : Supply) : Garbled m ↔ (∃ e, fits m = .error e) ∨
    (∃ s, fits m = .ok (.ok s)) ∧ ∃ e, (Schema.createFromData supply (.obj m)).1 = .error (.shape e) := by
  rw [Schema.exists_createFromData_eq_shape_iff, exists_fits_eq_error_iff, Garbled,
    ← Schema.exists_rawFields_eq_error_iff, ← Schema.exists_mem_rawFields_iff]
  tauto

/-! ## Replies and drafts -/

theorem draft_error (supply : Supply) (failure : TaskFailure) :
    (draft supply (.error failure)).1 = .error failure := rfl

theorem exists_draft_data_eq_crash_iff (supply : Supply) (v : Json) :
    (∃ c, (draft supply (.ok (.data v))).1 = .error (.crash c)) ↔
      ∃ e, (Schema.createFromData supply v).1 = .error (.shape e) := by
  simp only [draft, Schema.create]
  generalize Schema.createFromData supply v = created
  obtain ⟨(issues | e) | s, after⟩ := created <;> simp

theorem breaks_answered_iff {status : Int} {body : List Char} : (Reply.answered status body).Breaks ↔
    isSuccess status = true ∧
      ((∃ text container, Json.ofBytes (Text.bytes body) = .error (.unreadable text (.tooDeep container))) ∨
        ∃ v, Json.ofBytes (Text.bytes body) = .ok v ∧ ∃ m, schemaOf v = some m ∧ Garbled m) := by
  constructor
  · rintro (⟨hsuccess, hdeep⟩ | ⟨hsuccess, hread, hschema, hgarbled⟩)
    · exact ⟨hsuccess, .inl ⟨_, _, hdeep⟩⟩
    · exact ⟨hsuccess, .inr ⟨_, hread, _, hschema, hgarbled⟩⟩
  · rintro ⟨hsuccess, ⟨text, container, hdeep⟩ | ⟨v, hread, m, hschema, hgarbled⟩⟩
    · exact .tooDeep hsuccess hdeep
    · exact .garbled hsuccess hread hschema hgarbled

/-- **What the service answers ends in a fault exactly if its reply breaks the interpretation off.** -/
theorem exists_draft_answer_eq_crash_iff (supply : Supply) (task : Task) (q : Request) (r : Reply) :
    (∃ c, (draft supply (answer task q r)).1 = .error (.crash c)) ↔ q.url.isAbsolute = true ∧ r.Breaks := by
  cases r with
  | failed reason =>
    have hbreaks : ¬ (Reply.failed reason).Breaks := fun h => by cases h
    simp [answer, hbreaks, draft_error]
  | answered status body =>
    rw [breaks_answered_iff]
    cases habsolute : q.url.isAbsolute with
    | false => simp [answer, habsolute, draft_error]
    | true =>
      cases hsuccess : isSuccess status with
      | false => simp [answer, habsolute, hsuccess, draft_error]
      | true =>
        rcases hread : Json.ofBytes (Text.bytes body) with (_ | ⟨text, _ | _ | container⟩) | v
        · simp [answer, habsolute, hsuccess, hread, draft_error]
        · simp [answer, habsolute, hsuccess, hread, draft_error]
        · simp [answer, habsolute, hsuccess, hread, draft_error]
        · simp [answer, habsolute, hsuccess, hread, draft_error]
        · cases hschema : schemaOf v with
          | none => simp [answer, habsolute, hsuccess, hread, hschema, draft_error]
          | some m =>
            rcases hfits : fits m with e | (s | issues)
            · simp [answer, habsolute, hsuccess, hread, hschema, hfits, garbled_iff m supply, draft_error]
            · simp [answer, habsolute, hsuccess, hread, hschema, hfits, garbled_iff m supply,
                exists_draft_data_eq_crash_iff]
            · simp [answer, habsolute, hsuccess, hread, hschema, hfits, garbled_iff m supply, draft_error]

theorem request_eq_address_iff {baseUrl : String} {task : Task} {e : UrlError} :
    request baseUrl task = .error (.address e) ↔ address baseUrl task = .error e := by
  unfold request
  cases address baseUrl task with
  | error e => simp [Except.mapError, Bind.bind, Except.bind]
  | ok url =>
    cases hbody : Text.encodeError? (payload task).plain with
    | some e => simp [Except.mapError, Bind.bind, Except.bind, hbody]
    | none => cases hhost : url.checkHost <;> simp [Except.mapError, Bind.bind, Except.bind, hbody, hhost]

theorem exists_draft_eq_crash_iff (supply : Supply) (baseUrl : String) (reply : Request → Reply) (task : Task) :
    (∃ c, (draft supply ((interpreter baseUrl reply).answer task)).1 = .error (.crash c)) ↔
      (∃ e, address baseUrl task = .error e) ∨ Breaks baseUrl reply task := by
  simp only [interpreter, Breaks, ← request_eq_address_iff]
  rcases request baseUrl task with (e | e | e) | q
  · simp [draft_error]
  · simp [draft_error]
  · simp [draft_error]
  · simp [exists_draft_answer_eq_crash_iff]

def serviceUrl : String := "http://interp.test"

theorem exists_address_serviceUrl (task : Task) : ∃ url, address serviceUrl task = .ok url := by
  have hsome : (address serviceUrl task).toOption.isSome = true := by
    cases task <;> simp only [address, action] <;> decide +kernel
  obtain ⟨url, hurl⟩ := Option.isSome_iff_exists.1 hsome
  exact ⟨url, Sequence.toOption_eq_some_iff.1 hurl⟩

end Remote
end Scaffold
