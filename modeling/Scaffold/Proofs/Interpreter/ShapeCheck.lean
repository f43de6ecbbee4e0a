import Scaffold.Proofs.Interpreter.Remote
import Scaffold.Proofs.Schema.Passing
/-!
# Proofs.Interpreter.ShapeCheck — schemas that the shape check refuses although they can be made

Making a schema gives each field an id of its own and replaces a label that is nothing; the shape check looks at the ids
and labels that came.  So a schema that can be made is handed on exactly if each of the objects among its fields has
texts for id and label, or none (`schema_returned_iff`).
-/
namespace Scaffold

namespace Remote

/-- **A field as the shape check sees it**: with a mark for the id that it may lack. -/
def marked (f : Json.Members) : Json.Members := Entries.merge [("id", .str "-")] f

structure Described (f : Json.Members) : Prop where
  id : ∀ v ∈ f.get? "id", v.isText = true
  label : ∀ v ∈ f.get? "label", v.isText = true

instance (f : Json.Members) : Decidable (Described f) :=
  decidable_of_iff ((∀ v ∈ f.get? "id", v.isText = true) ∧ ∀ v ∈ f.get? "label", v.isText = true)
    ⟨fun h => ⟨h.1, h.2⟩, fun h => ⟨h.id, h.label⟩⟩

variable {f : Json.Members}

theorem get?_marked (hkeys : (f.map Prod.fst).Nodup) (key : Wording) :
    (marked f).get? key = (f.get? key).or (if Wording.ofText "id" = key then some (.str "-") else none) :=
  Entries.get?_merge key _ hkeys

theorem get?_marked_of_ne (hkeys : (f.map Prod.fst).Nodup) {key : Wording} (hid : key ≠ "id") :
    (marked f).get? key = f.get? key := by
  rw [get?_marked hkeys, if_neg (Ne.symm hid), Option.or_none]

theorem described_of_ofMembers {place : List Step} {m : Json.Members} {f : Field}
    (h : Field.ofMembers place m = .ok f) : Described m := by
  obtain ⟨hid, -, hlabel, -⟩ := Field.ofMembers_eq_ok_iff.1 h
  refine ⟨fun v hv => ?_, fun v hv => ?_⟩
  · rw [Check.required_of_get? hv] at hid
    exact Json.isText_iff.2 ⟨_, Check.string_eq_ok_iff.1 hid⟩
  · rw [Check.optional_of_get? hv] at hlabel
    exact Json.isText_iff.2 ⟨_, Check.string_eq_ok_iff.1 hlabel⟩

theorem exists_get?_marked (hkeys : (f.map Prod.fst).Nodup) (h : Described f) :
    ∃ w, (marked f).get? "id" = some (.str w) := by
  rw [get?_marked hkeys]
  cases hget : f.get? "id" with
  | none => exact ⟨_, rfl⟩
  | some v =>
    obtain ⟨w, rfl⟩ := Json.isText_iff.1 (h.id v hget)
    exact ⟨w, rfl⟩

theorem exists_label_marked (hkeys : (f.map Prod.fst).Nodup) (h : Described f) (place : List Step) :
    ∃ w, Check.optional (marked f) place ["label"] ("" : Wording) Check.string = .ok w := by
  have hlabel : (marked f).get? "label" = f.get? "label" := get?_marked_of_ne hkeys (by decide)
  cases hget : f.get? "label" with
  | none => exact ⟨"", by simp [Check.optional, Check.lookup?, hlabel, hget]⟩
  | some v =>
    obtain ⟨w, rfl⟩ := Json.isText_iff.1 (h.label v hget)
    exact ⟨w, by rw [Check.optional_of_get? (hlabel.trans hget)]; rfl⟩

theorem exists_check_marked_iff (hkeys : (f.map Prod.fst).Nodup) {id : Wording} {place : List Step} {g : Field}
    (h : Field.check place (.obj (Schema.completed id f)) = .ok g) (place' : List Step) :
    (∃ g', Field.check place' (.obj (marked f)) = .ok g') ↔ Described f := by
  constructor
  · rintro ⟨g', hg'⟩
    have hmarked : Described (marked f) := described_of_ofMembers hg'
    refine ⟨fun v hv => hmarked.id v ?_, fun v hv => hmarked.label v ?_⟩
    · rw [get?_marked hkeys, hv, Option.some_or]
      rfl
    · rwa [get?_marked_of_ne hkeys (by decide)]
  · intro hdescribed
    obtain ⟨i, hi⟩ := exists_get?_marked hkeys hdescribed
    obtain ⟨l, hl⟩ := exists_label_marked hkeys hdescribed place'
    have hrequired : Check.required (marked f) place' ["id"] Check.string = .ok i := by
      rw [Check.required_of_get? hi]
      rfl
    refine ⟨_, Field.ofMembers_of_rest h (fun hid hlabel => ?_) hrequired hl⟩
    rw [get?_marked_of_ne hkeys hid, Schema.get?_completed_of_ne hid hlabel]

variable {supply : Supply} {m : Json.Members} {s : Schema}

theorem exists_check_completed (h : (Schema.createFromData supply (.obj m)).1 = .ok s) : ∀ f ∈ Schema.fieldObjects m,
    ∃ id place g, Field.check place (.obj (Schema.completed id f)) = .ok g := by
  obtain ⟨raw, fields, hraw, hcompleted, hmade⟩ := Schema.exists_of_createFromData h
  have hchecked := Schema.fields_of_ofMembers (Json.Members.get?_set_self m "fields" (.arr fields)) hmade
  have hpassed : ∀ r ∈ fields, ∃ place g, Field.check place r = .ok g :=
    Sequence.forall_mem_of_forall₂ (fun g r ⟨place, hg⟩ => ⟨place, g, hg⟩) (Checked.forall₂_of_list hchecked).flip
  have hboth := (List.forall₂_and_left _ _).2 ⟨hpassed, (Schema.forall₂_completed hcompleted).flip⟩
  have hall : ∀ v ∈ raw, ∀ f, v.members? = some f →
      ∃ id place g, Field.check place (.obj (Schema.completed id f)) = .ok g := by
    refine Sequence.forall_mem_of_forall₂ (fun r v ⟨⟨place, g, hg⟩, m, id, hrecord, hr⟩ f hf => ?_) hboth
    obtain rfl := Json.members?_eq_some_iff.1 hf
    obtain rfl := Except.ok.inj hrecord
    exact ⟨id, place, g, hr ▸ hg⟩
  rw [← Schema.filterMap_rawFields hraw]
  intro f hf
  obtain ⟨v, hv, hmembers⟩ := List.mem_filterMap.1 hf
  exact hall v hv f hmembers

/-- **The shape check passes a schema that can be made exactly if its fields have texts for id and label**, or none. -/
theorem exists_fits_iff (hkeyed : Json.Keyed (.obj m)) (h : (Schema.createFromData supply (.obj m)).1 = .ok s) :
    (∃ t, fits m = .ok (.ok t)) ↔ ∀ f ∈ Schema.fieldObjects m, Described f := by
  obtain ⟨raw, fields, hraw, -, hmade⟩ := Schema.exists_of_createFromData h
  have hrecords : fieldRecords m = .ok ((Schema.fieldObjects m).map (fun f => .obj (marked f))) := by
    rw [fieldRecords, ← Schema.filterMap_rawFields hraw, hraw, List.map_filterMap]
    rfl
  have hpassed : ∀ f ∈ Schema.fieldObjects m, ∀ place,
      (∃ g, Field.check place (.obj (marked f)) = .ok g) ↔ Described f := fun f hf place => by
    obtain ⟨id, place', g, hg⟩ := exists_check_completed h f hf
    exact exists_check_marked_iff (Schema.keyed_of_mem_fieldObjects hkeyed hf).nodup hg place
  rw [← Checked.exists_list_map_eq_ok_iff hpassed [.key "fields"] 0, ← Schema.checkFields,
    ← Schema.exists_ofMembers_set_fields_iff hmade, fits, hrecords]
  simp [Except.map]

theorem keyed_of_schemaOf {body : Json} (hkeyed : body.Keyed) (h : schemaOf body = some m) : Json.Keyed (.obj m) := by
  unfold schemaOf at h
  cases body with
  | obj members =>
    dsimp only at h
    cases hget : (Json.obj members).get? "schema" with
    | none =>
      rw [hget] at h
      exact Option.some.inj h ▸ hkeyed
    | some v =>
      rw [hget] at h
      cases v with
      | obj inner =>
        obtain rfl := Option.some.inj h
        exact hkeyed.of_get? hget
      | _ => cases h
  | _ => cases h

/-- **The service answers a task with a schema**, bare or under its own key: there is a request, and the reply to it is
a success that holds the schema. -/
def Offers (baseUrl : String) (reply : Request → Reply) (task : Task) (m : Json.Members) : Prop :=
  ∃ q status text body, request baseUrl task = .ok q ∧ q.url.isAbsolute = true ∧ reply q = .answered status text ∧
    isSuccess status = true ∧ Json.ofBytes (Text.bytes text) = .ok body ∧ schemaOf body = some m

theorem answer_of_offers {baseUrl : String} {reply : Request → Reply} {task : Task} (h : Offers baseUrl reply task m) :
    (interpreter baseUrl reply).answer task =
      match fits m with
      | .error e => .error (.crash (.shape e))
      | .ok (.refused issues) => .error (.interpretation (.malformed issues))
      | .ok (.ok _) => .ok (.data (.obj m)) := by
  obtain ⟨q, status, text, body, hrequest, habsolute, hreply, hsuccess, hread, hschema⟩ := h
  rcases hfits : fits m with e | (t | issues) <;>
    simp only [interpreter, hrequest, hreply, answer, habsolute, hsuccess, hread, hschema, hfits, Bool.not_true,
      Bool.false_eq_true, if_false]

theorem Offers.keyed {baseUrl : String} {reply : Request → Reply} {task : Task} (h : Offers baseUrl reply task m) :
    Json.Keyed (.obj m) := by
  obtain ⟨q, status, text, body, -, -, -, -, hread, hschema⟩ := h
  exact keyed_of_schemaOf (Json.keyed_of_ofBytes hread) hschema

/-- **A schema that can be made is handed on exactly if its fields have texts for id and label**, or none.  If a service
answers a task with a schema that can be made, this is the answer to the task if each object among its fields has a text
or nothing as id and as label; otherwise it is refused as malformed. -/
theorem schema_returned_iff {baseUrl : String} {reply : Request → Reply} {task : Task}
    (hoffers : Offers baseUrl reply task m) (hmade : (Schema.createFromData supply (.obj m)).1 = .ok s) :
    ((interpreter baseUrl reply).answer task = .ok (.data (.obj m)) ↔ ∀ f ∈ Schema.fieldObjects m, Described f) ∧
    ((interpreter baseUrl reply).answer task ≠ .ok (.data (.obj m)) →
      ∃ issues, (interpreter baseUrl reply).answer task = .error (.interpretation (.malformed issues))) := by
  obtain ⟨q, status, text, body, hrequest, habsolute, hreply, hsuccess, hread, hschema⟩ := hoffers
  have hkeyed := keyed_of_schemaOf (Json.keyed_of_ofBytes hread) hschema
  obtain ⟨raw, -, hraw, -⟩ := Schema.exists_of_createFromData hmade
  obtain ⟨checked, hfits⟩ : ∃ checked, fits m = .ok checked := by
    rw [fits, fieldRecords, hraw]
    exact ⟨_, rfl⟩
  have hanswer : (interpreter baseUrl reply).answer task = answer task q (.answered status text) := by
    simp only [interpreter, hrequest, hreply]
  rw [← exists_fits_iff hkeyed hmade, hanswer]
  cases checked with
  | ok t =>
    have hdata : answer task q (.answered status text) = .ok (.data (.obj m)) := by
      simp [answer, habsolute, hsuccess, hread, hschema, hfits]
    exact ⟨iff_of_true hdata ⟨t, hfits⟩, fun hnot => absurd hdata hnot⟩
  | refused issues =>
    have hmalformed : answer task q (.answered status text) = .error (.interpretation (.malformed issues)) := by
      simp [answer, habsolute, hsuccess, hread, hschema, hfits]
    refine ⟨iff_of_false (fun hdata => ?_) ?_, fun _ => ⟨issues, hmalformed⟩⟩
    · cases hmalformed.symm.trans hdata
    · rintro ⟨t, ht⟩
      cases hfits.symm.trans ht

theorem exists_offers_of_text {baseUrl : String} {task : Task} {text : List Char} {p : Json.Members → Bool}
    (hrequest : (request baseUrl task).toOption.any (fun q => q.url.isAbsolute) = true)
    (h : ((Json.ofBytes (Text.bytes text)).toOption.bind schemaOf).any p = true) :
    ∃ m, Offers baseUrl (fun _ => .answered 200 text) task m ∧ p m = true := by
  obtain ⟨q, hq, habsolute⟩ := (Option.any_eq_true _ _).1 hrequest
  obtain ⟨m, hm, hp⟩ := (Option.any_eq_true _ _).1 h
  obtain ⟨body, hbody, hschema⟩ := Option.bind_eq_some_iff.1 hm
  exact ⟨m, ⟨q, 200, _, body, Sequence.toOption_eq_some_iff.1 hq, habsolute, rfl, rfl,
    Sequence.toOption_eq_some_iff.1 hbody, hschema⟩, hp⟩

def bookTask : Task := .interpret "p" {}

def bookText (field : String) : List Char :=
  ("\x7b\"entityName\":\"Book\",\"fields\":[" ++ field ++ "]\x7d").toList

def bookReply (field : String) (_ : Request) : Reply := .answered 200 (bookText field)

theorem exists_offers {field : String} {p : Json.Members → Bool}
    (h : ((Json.ofBytes (Text.bytes (bookText field))).toOption.bind schemaOf).any p = true) :
    ∃ m, Offers serviceUrl (bookReply field) bookTask m ∧ p m = true :=
  exists_offers_of_text (by decide +kernel) h

def canBeMade (m : Json.Members) : Bool := (Schema.createFromData {} (.obj m)).1.toOption.isSome

theorem exists_of_canBeMade (h : canBeMade m = true) : ∃ s, (Schema.createFromData {} (.obj m)).1 = .ok s := by
  obtain ⟨s, hs⟩ := Option.isSome_iff_exists.1 h
  exact ⟨s, Sequence.toOption_eq_some_iff.1 hs⟩

def unlabelledTitle : String := "\x7b\"id\":\"7\",\"name\":\"title\",\"label\":\"\"\x7d"

/-- **A title with an empty label is handed on.** -/
theorem unlabelled_returned : ∃ m s, Offers serviceUrl (bookReply unlabelledTitle) bookTask m ∧
    (Schema.createFromData {} (.obj m)).1 = .ok s ∧
    (interpreter serviceUrl (bookReply unlabelledTitle)).answer bookTask = .ok (.data (.obj m)) := by
  have hboth : ((Json.ofBytes (Text.bytes (bookText unlabelledTitle))).toOption.bind schemaOf).any
      (fun m => canBeMade m && decide (∀ f ∈ Schema.fieldObjects m, Described f)) = true := by decide +kernel
  obtain ⟨m, hoffers, hm⟩ := exists_offers hboth
  obtain ⟨hmade, hdescribed⟩ := Bool.and_eq_true_iff.1 hm
  obtain ⟨s, hs⟩ := exists_of_canBeMade hmade
  exact ⟨m, s, hoffers, hs, (schema_returned_iff hoffers hs).1.2 (of_decide_eq_true hdescribed)⟩

def numberedTitle : String := "\x7b\"id\":5,\"name\":\"title\"\x7d"

/-- **A title whose id is a number is refused**, although a schema can be made of the book. -/
theorem numbered_refused : ∃ m s, Offers serviceUrl (bookReply numberedTitle) bookTask m ∧
    (Schema.createFromData {} (.obj m)).1 = .ok s ∧
    (Sequence.thrown? ((interpreter serviceUrl (bookReply numberedTitle)).answer bookTask)).map TaskFailure.message =
      some ("Interpretation service returned a malformed schema: 1 validation error for SchemaDefinition\n" ++
        "fields.0.id\n  Input should be a valid string [type=string_type]") := by
  have hmade : ((Json.ofBytes (Text.bytes (bookText numberedTitle))).toOption.bind schemaOf).any canBeMade = true := by
    decide +kernel
  obtain ⟨m, hoffers, hm⟩ := exists_offers hmade
  obtain ⟨s, hs⟩ := exists_of_canBeMade hm
  exact ⟨m, s, hoffers, hs, by decide +kernel⟩

end Remote

end Scaffold
