import Scaffold.Proofs.Schema.Merge
import Scaffold.Proofs.Web.Request
/-!
# Proofs.Web.Changes — what a request changes of a field

The body of a request is read attribute by attribute, and what was read is read again when the field is updated.
Nothing comes of reading twice: a field is updated as it would be with what the body holds under the keys that are known
(`Field.update_of_changes`).  Of what is refused at first, each issue is about a value that the body gives
(`Payload.forall_issue_iff`); what is refused only at last is null (`Field.input_of_update`).
-/
namespace Scaffold

namespace Entries

variable {κ α : Type} [DecidableEq κ]

theorem get?_filter (p : κ → Bool) (key : κ) : ∀ l : Entries κ α,
    get? key (l.filter (fun e => p e.1)) = if p key then get? key l else none
  | [] => by simp [get?]
  | (k, v) :: rest => by
    have ih := get?_filter p key rest
    by_cases hk : k = key
    · subst hk
      cases hp : p k <;> simp_all [get?]
    · cases hp : p k <;> simp_all [get?]

end Entries

namespace Checked

variable {α β : Type}

def issues : Checked α → List Issue
  | .ok _ => []
  | .refused l => l

@[simp] theorem issues_ok (a : α) : (ok a).issues = [] := rfl

@[simp] theorem issues_fault (place : List Step) (what : Fault) (v : Json) :
    (fault place what v : Checked α).issues = [⟨what, place, v⟩] := rfl

@[simp] theorem issues_map (f : α → β) (x : Checked α) : (f <$> x).issues = x.issues := by
  cases x <;> rfl

@[simp] theorem issues_seq (f : Checked (α → β)) (x : Checked α) : (f <*> x).issues = f.issues ++ x.issues := by
  cases f <;> cases x <;> simp [Seq.seq, ap, issues]

/-- **One value is judged**: it passes, or it is found at fault itself. -/
def Judges (place : List Step) (v : Json) (x : Checked α) : Prop :=
  (∃ a, x = .ok a) ∨ ∃ what, x = fault place what v

theorem Judges.map {place : List Step} {v : Json} {x : Checked α} (h : Judges place v x) (f : α → β) :
    Judges place v (f <$> x) := by
  rcases h with ⟨a, rfl⟩ | ⟨what, rfl⟩
  · exact .inl ⟨f a, rfl⟩
  · exact .inr ⟨what, rfl⟩

theorem Judges.input_of_mem {place : List Step} {v : Json} {x : Checked α} (h : Judges place v x) {i : Issue}
    (hi : i ∈ x.issues) : i.input = v ∧ ¬ ∃ a, x = .ok a := by
  rcases h with ⟨a, rfl⟩ | ⟨what, rfl⟩
  · cases hi
  · rw [issues_fault, List.mem_singleton] at hi
    exact ⟨by rw [hi], fun ⟨_, h⟩ => by cases h⟩

end Checked

namespace Check

variable (place : List Step) (v : Json)

theorem judges_string : (string place v).Judges place v := by
  cases v with
  | str w => exact .inl ⟨w, rfl⟩
  | _ => exact .inr ⟨_, rfl⟩

theorem judges_bool : (bool place v).Judges place v := by
  unfold bool text
  dsimp only
  repeat' split
  all_goals first
    | exact .inl ⟨_, rfl⟩
    | exact .inr ⟨_, rfl⟩

end Check

theorem FieldType.judges_check (place : List Step) (v : Json) : (check place v).Judges place v := by
  unfold check Check.text
  dsimp only
  repeat' split
  all_goals first
    | exact .inl ⟨_, rfl⟩
    | exact .inr ⟨_, rfl⟩

/-! ## The attributes of a field -/

namespace Web

/-- **What a request can change of a field.** -/
inductive Attribute where
  | name
  | label
  | type
  | required
  | default
  | indexed
deriving DecidableEq, Repr

namespace Attribute

def all : List Attribute := [.name, .label, .type, .required, .default, .indexed]

def keys : Attribute → List String
  | .name => ["name"]
  | .label => ["label"]
  | .type => ["type"]
  | .required => ["required"]
  | .default => Field.defaultKeys
  | .indexed => ["indexed"]

def changeName : Attribute → String
  | .name => "name"
  | .label => "label"
  | .type => "type"
  | .required => "required"
  | .default => "default_value"
  | .indexed => "indexed"

def given? (a : Attribute) (m : Json.Members) : Option Json := (Check.lookup? m a.keys).map Prod.snd

def taken? : Attribute → Json → Option Json
  | .name, v | .label, v => if v.isText then some v else none
  | .type, .str w => if (w.text?.bind FieldType.ofName?).isSome then some (.str w) else none
  | .type, _ => none
  | .required, v | .indexed, v => (Check.boolOf? v).map .bool
  | .default, .null => some .null
  | .default, v => if v.isText then some v else none

def accepts (a : Attribute) (v : Json) : Bool := (a.taken? v).isSome

/-- What is passed on for a value: null is, whatever it is given for. -/
def passed? (a : Attribute) : Json → Option Json
  | .null => some .null
  | v => a.taken? v

def check : Attribute → List Step → Json → Checked Json
  | .name | .label | .default => Payload.nullable Check.string .str
  | .type => Payload.nullable FieldType.check (fun t => .str t.name)
  | .required | .indexed => Payload.nullable Check.bool .bool

theorem mem_all (a : Attribute) : a ∈ all := by
  cases a <;> decide

theorem changeName_injective : Function.Injective (fun a => Wording.ofText (changeName a)) := by
  intro a b h
  cases a <;> cases b <;> first | rfl | exact absurd h (by decide)

variable {place : List Step} {v j : Json}

theorem nullable_of_ne {α : Type} (check : List Step → Json → Checked α) (toJson : α → Json) (h : v ≠ .null) :
    Payload.nullable check toJson place v = toJson <$> check place v := by
  cases v with
  | null => exact absurd rfl h
  | _ => rfl

theorem passed?_of_ne (a : Attribute) (h : v ≠ .null) : a.passed? v = a.taken? v := by
  cases v with
  | null => exact absurd rfl h
  | _ => rfl

theorem passed?_isSome_iff (a : Attribute) (v : Json) :
    (a.passed? v).isSome = true ↔ v = .null ∨ a.accepts v = true := by
  by_cases hv : v = .null
  · subst hv
    exact iff_of_true rfl (.inl rfl)
  · rw [passed?_of_ne a hv, or_iff_right hv]
    rfl

theorem name_of_ofName? {s : String} {t : FieldType} (h : FieldType.ofName? s = some t) : t.name = s := by
  simpa using List.find?_some h

theorem check_eq_ok_iff (a : Attribute) (place : List Step) : a.check place v = .ok j ↔ a.passed? v = some j := by
  by_cases hv : v = .null
  · subst hv
    cases a <;> simp [check, Payload.nullable, passed?]
  rw [passed?_of_ne a hv]
  cases a with
  | name | label | default =>
    rw [check, nullable_of_ne _ _ hv, Checked.map_eq_ok_iff]
    cases v <;> simp_all [Check.string_eq_ok_iff, taken?, Json.isText]
  | required | indexed =>
    rw [check, nullable_of_ne _ _ hv, Checked.map_eq_ok_iff]
    simp [Check.bool_eq_ok_iff, taken?]
  | type =>
    rw [check, nullable_of_ne _ _ hv, Checked.map_eq_ok_iff]
    simp only [FieldType.check_eq_ok_iff]
    constructor
    · rintro ⟨t, ⟨w, rfl, hw⟩, rfl⟩
      obtain ⟨s, hs, ht⟩ := Option.bind_eq_some_iff.1 hw
      rw [taken?, hw, name_of_ofName? ht, Wording.text?_eq_some_iff.1 hs]
      rfl
    · intro h
      cases v with
      | str w =>
        rw [taken?] at h
        cases hw : w.text?.bind FieldType.ofName? with
        | none =>
          rw [hw] at h
          cases h
        | some t =>
          obtain ⟨s, hs, ht⟩ := Option.bind_eq_some_iff.1 hw
          rw [hw] at h
          obtain rfl := Option.some.inj h
          exact ⟨t, ⟨w, rfl, hw⟩, by rw [name_of_ofName? ht, Wording.text?_eq_some_iff.1 hs]⟩
      | _ => cases h

theorem judges_check (a : Attribute) (place : List Step) (v : Json) : (a.check place v).Judges place v := by
  by_cases hv : v = .null
  · subst hv
    cases a <;> exact .inl ⟨_, rfl⟩
  · cases a <;> rw [check, nullable_of_ne _ _ hv]
    all_goals first
      | exact (Check.judges_string place v).map _
      | exact (Check.judges_bool place v).map _
      | exact (FieldType.judges_check place v).map _

end Attribute

namespace Payload

variable {m c : Json.Members}

/-! ## What is read of a body -/

def entryOf? (m : Json.Members) (a : Attribute) : Option (Wording × Json) :=
  ((a.given? m).bind a.passed?).map (fun j => (Wording.ofText a.changeName, j))

def changeOf (m : Json.Members) (a : Attribute) : Checked Json.Members := change m a.changeName a.keys a.check

theorem changes_eq (m : Json.Members) : changes m =
    (fun name label type required default indexed => name ++ label ++ type ++ required ++ default ++ indexed)
      <$> changeOf m .name <*> changeOf m .label <*> changeOf m .type <*> changeOf m .required <*> changeOf m .default
      <*> changeOf m .indexed := rfl

theorem changeOf_eq_ok_iff {a : Attribute} {l : Json.Members} : changeOf m a = .ok l ↔
    (∀ v, a.given? m = some v → (a.passed? v).isSome = true) ∧ l = (entryOf? m a).toList := by
  unfold changeOf change Check.optional entryOf? Attribute.given?
  cases Check.lookup? m a.keys with
  | none =>
    refine ⟨fun h => ⟨fun v hv => (by cases hv), (Checked.ok.inj h).symm⟩, ?_⟩
    rintro ⟨-, rfl⟩
    rfl
  | some e =>
    have hread : (a.check (bodyPlace ++ [.key e.1]) e.2).map (fun j => [(Wording.ofText a.changeName, j)]) = .ok l ↔
        ∃ j, a.passed? e.2 = some j ∧ [(Wording.ofText a.changeName, j)] = l := by
      simp only [← Attribute.check_eq_ok_iff _ (bodyPlace ++ [.key e.1])]
      exact Checked.map_eq_ok_iff
    refine hread.trans ?_
    constructor
    · rintro ⟨j, hj, rfl⟩
      refine ⟨fun v hv => ?_, by rw [Option.map_some, Option.bind_some, hj]; rfl⟩
      obtain rfl := Option.some.inj hv
      exact Option.isSome_iff_exists.2 ⟨j, hj⟩
    · rintro ⟨hpassed, rfl⟩
      obtain ⟨j, hj⟩ := Option.isSome_iff_exists.1 (hpassed e.2 rfl)
      exact ⟨j, hj, by rw [Option.map_some, Option.bind_some, hj]; rfl⟩

/-- **Changes are read exactly if each value can be passed on**, and they are what is passed on for each. -/
theorem changes_eq_ok_iff : changes m = .ok c ↔
    (∀ a v, Attribute.given? a m = some v → (a.passed? v).isSome = true) ∧
    c = Attribute.all.filterMap (entryOf? m) := by
  have hall : ∀ P : Attribute → Prop, (∀ a, P a) ↔
      P .name ∧ P .label ∧ P .type ∧ P .required ∧ P .default ∧ P .indexed := fun P =>
    ⟨fun h => ⟨h _, h _, h _, h _, h _, h _⟩, fun ⟨_, _, _, _, _, _⟩ a => by cases a <;> assumption⟩
  rw [changes_eq, hall]
  simp only [Checked.seq_eq_ok_iff, Checked.map_eq_ok_iff, changeOf_eq_ok_iff]
  rw [List.filterMap_eq_flatMap_toList]
  constructor
  · rintro ⟨_, _, ⟨_, _, ⟨_, _, ⟨_, _, ⟨_, _, ⟨_, ⟨h1, rfl⟩, rfl⟩, ⟨h2, rfl⟩, rfl⟩, ⟨h3, rfl⟩, rfl⟩, ⟨h4, rfl⟩, rfl⟩,
      ⟨h5, rfl⟩, rfl⟩, ⟨h6, rfl⟩, rfl⟩
    exact ⟨⟨h1, h2, h3, h4, h5, h6⟩, by simp [Attribute.all]⟩
  · rintro ⟨⟨h1, h2, h3, h4, h5, h6⟩, rfl⟩
    exact ⟨_, _, ⟨_, _, ⟨_, _, ⟨_, _, ⟨_, _, ⟨_, ⟨h1, rfl⟩, rfl⟩, ⟨h2, rfl⟩, rfl⟩, ⟨h3, rfl⟩, rfl⟩, ⟨h4, rfl⟩, rfl⟩,
      ⟨h5, rfl⟩, rfl⟩, ⟨h6, rfl⟩, by simp [Attribute.all]⟩

theorem forall_issue_changeOf_iff (m : Json.Members) (a : Attribute) (P : Json → Prop) :
    (∀ i ∈ (changeOf m a).issues, P i.input) ↔ ∀ v, a.given? m = some v → a.passed? v = none → P v := by
  unfold changeOf change Check.optional Attribute.given?
  cases Check.lookup? m a.keys with
  | none => exact iff_of_true (List.forall_mem_nil _) (fun v hv => by cases hv)
  | some e =>
    obtain ⟨key, v⟩ := e
    have hissues : (Checked.map (fun j => [(Wording.ofText a.changeName, j)])
        (a.check (bodyPlace ++ [.key key]) v)).issues =
        (a.check (bodyPlace ++ [.key key]) v).issues := Checked.issues_map _ _
    dsimp only
    rw [hissues]
    rcases a.judges_check (bodyPlace ++ [.key key]) v with ⟨j, hj⟩ | ⟨what, hwhat⟩
    · have hpassed := (Attribute.check_eq_ok_iff a _).1 hj
      rw [hj]
      refine iff_of_true (List.forall_mem_nil _) (fun u hu hnone => ?_)
      obtain rfl := Option.some.inj hu
      rw [hpassed] at hnone
      cases hnone
    · have hpassed : a.passed? v = none := by
        refine Option.eq_none_iff_forall_ne_some.2 (fun j hj => ?_)
        rw [(Attribute.check_eq_ok_iff a _).2 hj] at hwhat
        cases hwhat
      rw [hwhat, Checked.issues_fault, List.forall_mem_singleton]
      refine ⟨fun h u hu _ => ?_, fun h => h v rfl hpassed⟩
      obtain rfl := Option.some.inj hu
      exact h

theorem forall_issue_iff (m : Json.Members) (P : Json → Prop) : (∀ i ∈ (changes m).issues, P i.input) ↔
    ∀ a v, Attribute.given? a m = some v → a.passed? v = none → P v := by
  have hissues : (changes m).issues = Attribute.all.flatMap (fun a => (changeOf m a).issues) := by
    simp [changes_eq, Attribute.all]
  rw [hissues, List.forall_mem_flatMap]
  constructor
  · intro h a
    exact (forall_issue_changeOf_iff m a P).1 (h a a.mem_all)
  · intro h a _
    exact (forall_issue_changeOf_iff m a P).2 (h a)

theorem nodup_of_changes (h : changes m = .ok c) : (c.map Prod.fst).Nodup := by
  obtain ⟨-, rfl⟩ := changes_eq_ok_iff.1 h
  rw [List.map_filterMap]
  refine List.Nodup.filterMap (fun a b key ha hb => ?_) (by decide)
  obtain ⟨_, he, rfl⟩ := Option.map_eq_some_iff.1 ha
  obtain ⟨_, he', hkey⟩ := Option.map_eq_some_iff.1 hb
  obtain ⟨j, -, rfl⟩ := Option.map_eq_some_iff.1 he
  obtain ⟨j', -, rfl⟩ := Option.map_eq_some_iff.1 he'
  exact (Attribute.changeName_injective hkey).symm

theorem get?_of_changes (h : changes m = .ok c) (a : Attribute) :
    c.get? a.changeName = (a.given? m).bind a.passed? := by
  refine Option.ext (fun v => ?_)
  rw [Json.Members.get?, Entries.get?_eq_some_iff _ _ _ (nodup_of_changes h)]
  obtain ⟨-, rfl⟩ := changes_eq_ok_iff.1 h
  rw [List.mem_filterMap]
  constructor
  · rintro ⟨b, -, hb⟩
    obtain ⟨j, hj, heq⟩ := Option.map_eq_some_iff.1 hb
    obtain ⟨hname, rfl⟩ := Prod.mk.inj heq
    rwa [Attribute.changeName_injective hname] at hj
  · intro hv
    exact ⟨a, a.mem_all, Option.map_eq_some_iff.2 ⟨v, hv, rfl⟩⟩

theorem get?_defaultValue_of_changes (h : changes m = .ok c) : c.get? "defaultValue" = none := by
  refine (Entries.get?_eq_none_iff _ _).2 (fun hmem => ?_)
  obtain ⟨e, he, hkey⟩ := List.mem_map.1 hmem
  obtain ⟨name, hname, heq⟩ := named_of_changes h e he
  have hne : ∀ name ∈ changeNames, Wording.ofText name ≠ Wording.ofText "defaultValue" := by decide
  exact hne name hname (heq.symm.trans hkey)

def knownKeys : List Wording := (Attribute.all.flatMap Attribute.keys).map Wording.ofText

/-- **What a body holds under the keys that are known.** -/
def known (m : Json.Members) : Json.Members := m.filter (fun e => decide (e.1 ∈ knownKeys))

theorem nodup_known (h : (m.map Prod.fst).Nodup) : ((known m).map Prod.fst).Nodup :=
  h.sublist ((List.filter_sublist).map Prod.fst)

theorem get?_known {key : Wording} (h : key ∈ knownKeys) : (known m).get? key = m.get? key := by
  refine (Entries.get?_filter (fun key => decide (key ∈ knownKeys)) key m).trans ?_
  rw [if_pos (decide_eq_true h)]
  rfl

end Payload

namespace Attribute

variable {m : Json.Members}

theorem given?_known (a : Attribute) (m : Json.Members) : a.given? (Payload.known m) = a.given? m := by
  have hkeys : ∀ key ∈ a.keys, (Payload.known m).get? (key : Wording) = m.get? (key : Wording) := by
    intro key hkey
    refine Payload.get?_known (List.mem_map_of_mem ?_)
    exact List.mem_flatMap.2 ⟨a, a.mem_all, hkey⟩
  rw [given?, given?, Check.lookup?_congr hkeys]

theorem given?_eq_get? {a : Attribute} {key : String} (h : a.keys = [key]) (m : Json.Members) :
    a.given? m = m.get? key := by
  unfold given?
  rw [h, Check.lookup?]
  cases m.get? key <;> rfl

theorem given?_default (m : Json.Members) : default.given? m = Field.setDefault? m := by
  simp only [given?, keys, Field.defaultKeys, Check.lookup?, Field.setDefault?]
  cases m.get? "defaultValue" <;> cases m.get? "default_value" <;> rfl

/-! ## Values that are read again -/

variable (place : List Step) {v j : Json}

theorem accepts_text_iff {a : Attribute} (h : a = .name ∨ a = .label) :
    (∃ w, Check.string place v = .ok w) ↔ a.accepts v = true := by
  rcases h with rfl | rfl <;> cases v <;> simp [Check.string_eq_ok_iff, accepts, taken?, Json.isText]

theorem accepts_type_iff : (∃ t, FieldType.check place v = .ok t) ↔ type.accepts v = true := by
  simp only [FieldType.check_eq_ok_iff]
  cases v with
  | str w => cases hw : w.text?.bind FieldType.ofName? <;> simp [accepts, taken?, hw]
  | _ => simp [accepts, taken?]

theorem accepts_bool_iff {a : Attribute} (h : a = .required ∨ a = .indexed) :
    (∃ b, Check.bool place v = .ok b) ↔ a.accepts v = true := by
  simp only [Check.bool_eq_ok_iff]
  rcases h with rfl | rfl <;> cases hv : Check.boolOf? v <;> simp [accepts, taken?, hv]

theorem accepts_default_iff : (∃ d?, Check.string? place (Field.cleared v) = .ok d?) ↔ default.accepts v = true := by
  cases v with
  | str w =>
    obtain ⟨_ | ⟨x, signs⟩⟩ := w <;> simp [Field.cleared, Check.string?, accepts, taken?, Json.isText]
  | _ => simp [Field.cleared, Check.string?, accepts, taken?, Json.isText, Checked.fault]

theorem eq_of_passed? {a : Attribute} (h : a.passed? v = some j) (hrequired : a ≠ .required) (hindexed : a ≠ .indexed) :
    j = v := by
  by_cases hv : v = .null
  · subst hv
    exact (Option.some.inj h).symm
  rw [passed?_of_ne a hv] at h
  unfold taken? at h
  split at h <;> first
    | exact absurd rfl hrequired
    | exact absurd rfl hindexed
    | exact (Option.some.inj h).symm
    | cases h
    | (split at h
       · exact (Option.some.inj h).symm
       · cases h)

theorem bool_of_passed? {a : Attribute} (ha : a = .required ∨ a = .indexed) (h : a.passed? v = some j)
    (place : List Step) : Check.bool place j = Check.bool place v := by
  by_cases hv : v = .null
  · subst hv
    rw [Option.some.inj h]
  rw [passed?_of_ne a hv] at h
  have htaken : (Check.boolOf? v).map .bool = some j := by rcases ha with rfl | rfl <;> exact h
  obtain ⟨b, hb, rfl⟩ := Option.map_eq_some_iff.1 htaken
  exact (Check.bool_eq_ok_iff.2 hb).symm

theorem accepts_of_passed? {a : Attribute} (h : a.passed? v = some j) (hj : j ≠ .null) : a.accepts j = true := by
  by_cases ha : a = .required ∨ a = .indexed
  · rw [← accepts_bool_iff [] ha, bool_of_passed? ha h, accepts_bool_iff [] ha]
    have hv : v ≠ .null := by
      rintro rfl
      exact hj (Option.some.inj h).symm
    rw [passed?_of_ne a hv] at h
    exact Option.isSome_iff_exists.2 ⟨j, h⟩
  · obtain ⟨hrequired, hindexed⟩ := not_or.1 ha
    obtain rfl := eq_of_passed? h hrequired hindexed
    rw [passed?_of_ne a hj] at h
    exact Option.isSome_iff_exists.2 ⟨j, h⟩

def held (f : Field) : Attribute → Json
  | .name => .str f.name
  | .label => .str f.label
  | .type => .str f.type.name
  | .required => .bool f.required
  | .default => Json.ofWording? f.default?
  | .indexed => .bool f.indexed

theorem accepts_held (f : Field) (a : Attribute) : a.accepts (held f a) = true := by
  cases a with
  | type => exact (accepts_type_iff _).1 ⟨f.type, FieldType.check_name [] f.type⟩
  | default => cases hd : f.default? <;> simp [held, hd, accepts, taken?, Json.ofWording?, Json.isText]
  | _ => rfl

def sought (a : Attribute) (f : Field) (c : Json.Members) : Json := (a.given? c).getD (held f a)

theorem accepts_sought_iff (a : Attribute) (f : Field) (c : Json.Members) :
    a.accepts (a.sought f c) = true ↔ ∀ v, a.given? c = some v → a.accepts v = true := by
  unfold sought
  cases hv : a.given? c with
  | none => simp [accepts_held]
  | some v => simp

end Attribute

theorem Payload.given?_of_changes {m c : Json.Members} (h : changes m = .ok c) (a : Attribute) :
    a.given? c = (a.given? m).bind a.passed? := by
  rw [← get?_of_changes h a]
  cases a with
  | default =>
    rw [Attribute.given?_default, Field.setDefault?, get?_defaultValue_of_changes h]
    rfl
  | _ => exact Attribute.given?_eq_get? rfl c

end Web

namespace Field

open Web

variable {m c : Json.Members}

/-! ## The update of a field -/

theorem sought_eq (f : Field) (c : Json.Members) :
    Attribute.name.sought f c = (c.get? "name").getD (.str f.name) ∧
    Attribute.label.sought f c = (c.get? "label").getD (.str f.label) ∧
    Attribute.type.sought f c = (c.get? "type").getD (.str f.type.name) ∧
    Attribute.required.sought f c = (c.get? "required").getD (.bool f.required) ∧
    Attribute.default.sought f c = (setDefault? c).getD (Json.ofWording? f.default?) ∧
    Attribute.indexed.sought f c = (c.get? "indexed").getD (.bool f.indexed) := by
  have hget : ∀ {a : Attribute} {key : String}, a.keys = [key] →
      a.sought f c = (c.get? key).getD (Attribute.held f a) :=
    fun h => by rw [Attribute.sought, Attribute.given?_eq_get? h c]
  refine ⟨hget rfl, hget rfl, hget rfl, hget rfl, ?_, hget rfl⟩
  rw [Attribute.sought, Attribute.given?_default]
  rfl

theorem update_eq_sought (f : Field) (hkeys : (c.map Prod.fst).Nodup) : f.update c =
    (fun id name label type required default? indexed => Field.mk id name label type required default? indexed)
      <$> .ok f.id
      <*> Check.string [.key "name"] (Attribute.name.sought f c)
      <*> Check.string [.key "label"] (Attribute.label.sought f c)
      <*> FieldType.check [.key "type"] (Attribute.type.sought f c)
      <*> Check.bool [.key "required"] (Attribute.required.sought f c)
      <*> Check.string? [.key "default_value"] (cleared (Attribute.default.sought f c))
      <*> Check.bool [.key "indexed"] (Attribute.indexed.sought f c) := by
  obtain ⟨hname, hlabel, htype, hrequired, hdefault, hindexed⟩ := f.sought_eq c
  rw [update_eq f hkeys, hname, hlabel, htype, hrequired, hdefault, hindexed]

theorem update_eq_ok_iff_sought (f : Field) (hkeys : (c.map Prod.fst).Nodup) {g : Field} : f.update c = .ok g ↔
    g.id = f.id ∧
    Check.string [.key "name"] (Attribute.name.sought f c) = .ok g.name ∧
    Check.string [.key "label"] (Attribute.label.sought f c) = .ok g.label ∧
    FieldType.check [.key "type"] (Attribute.type.sought f c) = .ok g.type ∧
    Check.bool [.key "required"] (Attribute.required.sought f c) = .ok g.required ∧
    Check.string? [.key "default_value"] (cleared (Attribute.default.sought f c)) = .ok g.default? ∧
    Check.bool [.key "indexed"] (Attribute.indexed.sought f c) = .ok g.indexed := by
  obtain ⟨hname, hlabel, htype, hrequired, hdefault, hindexed⟩ := f.sought_eq c
  rw [update_eq_ok_iff hkeys, hname, hlabel, htype, hrequired, hdefault, hindexed]

theorem exists_update_iff (f : Field) (hkeys : (c.map Prod.fst).Nodup) :
    (∃ g, f.update c = .ok g) ↔ ∀ a v, Attribute.given? a c = some v → a.accepts v = true := by
  have hall : (∀ a v, Attribute.given? a c = some v → a.accepts v = true) ↔
      ∀ a : Attribute, a.accepts (a.sought f c) = true :=
    forall_congr' (fun a => (a.accepts_sought_iff f c).symm)
  simp only [hall, update_eq_ok_iff_sought f hkeys]
  constructor
  · rintro ⟨g, -, hname, hlabel, htype, hrequired, hdefault, hindexed⟩ a
    cases a with
    | name => exact (Attribute.accepts_text_iff _ (.inl rfl)).1 ⟨_, hname⟩
    | label => exact (Attribute.accepts_text_iff _ (.inr rfl)).1 ⟨_, hlabel⟩
    | type => exact (Attribute.accepts_type_iff _).1 ⟨_, htype⟩
    | required => exact (Attribute.accepts_bool_iff _ (.inl rfl)).1 ⟨_, hrequired⟩
    | default => exact (Attribute.accepts_default_iff _).1 ⟨_, hdefault⟩
    | indexed => exact (Attribute.accepts_bool_iff _ (.inr rfl)).1 ⟨_, hindexed⟩
  · intro h
    obtain ⟨name, hname⟩ := (Attribute.accepts_text_iff [.key "name"] (.inl rfl)).2 (h .name)
    obtain ⟨label, hlabel⟩ := (Attribute.accepts_text_iff [.key "label"] (.inr rfl)).2 (h .label)
    obtain ⟨type, htype⟩ := (Attribute.accepts_type_iff [.key "type"]).2 (h .type)
    obtain ⟨required, hrequired⟩ := (Attribute.accepts_bool_iff [.key "required"] (.inl rfl)).2 (h .required)
    obtain ⟨default?, hdefault⟩ := (Attribute.accepts_default_iff [.key "default_value"]).2 (h .default)
    obtain ⟨indexed, hindexed⟩ := (Attribute.accepts_bool_iff [.key "indexed"] (.inr rfl)).2 (h .indexed)
    exact ⟨⟨f.id, name, label, type, required, default?, indexed⟩, rfl, hname, hlabel, htype, hrequired, hdefault,
      hindexed⟩

/-- **Nothing comes of reading twice**: with what is passed on for a body, a field is updated as with what the body
holds under the keys that are known. -/
theorem update_of_changes (f : Field) (hm : (m.map Prod.fst).Nodup) (h : Payload.changes m = .ok c) :
    f.update c = f.update (Payload.known m) := by
  obtain ⟨hpassed, -⟩ := Payload.changes_eq_ok_iff.1 h
  have hread : ∀ {α : Type} (read : Json → Checked α) (a : Attribute),
      (∀ v j, a.passed? v = some j → read j = read v) → read (a.sought f c) = read (a.sought f (Payload.known m)) := by
    intro α read a hsame
    rw [Attribute.sought, Attribute.sought, Payload.given?_of_changes h, Attribute.given?_known]
    cases hv : a.given? m with
    | none => rfl
    | some v =>
      obtain ⟨j, hj⟩ := Option.isSome_iff_exists.1 (hpassed a v hv)
      rw [Option.bind_some, hj]
      exact hsame v j hj
  have hkept : ∀ {α : Type} (read : Json → Checked α) {a : Attribute}, a ≠ .required → a ≠ .indexed →
      read (a.sought f c) = read (a.sought f (Payload.known m)) := by
    intro α read a hrequired hindexed
    exact hread read a (fun v j hj => by rw [Attribute.eq_of_passed? hj hrequired hindexed])
  have hbool : ∀ place {a : Attribute}, a = .required ∨ a = .indexed →
      Check.bool place (a.sought f c) = Check.bool place (a.sought f (Payload.known m)) := by
    intro place a ha
    exact hread (Check.bool place) a (fun v j hj => Attribute.bool_of_passed? ha hj place)
  rw [update_eq_sought f (Payload.nodup_of_changes h), update_eq_sought f (Payload.nodup_known hm),
    hkept (Check.string [.key "name"]) (by decide) (by decide),
    hkept (Check.string [.key "label"]) (by decide) (by decide),
    hkept (FieldType.check [.key "type"]) (by decide) (by decide), hbool _ (.inl rfl),
    hkept (fun v => Check.string? [.key "default_value"] (cleared v)) (by decide) (by decide), hbool _ (.inr rfl)]

theorem accepts_sought_of_changes (f : Field) (h : Payload.changes m = .ok c) {a : Attribute}
    (hne : a.sought f c ≠ .null) : a.accepts (a.sought f c) = true := by
  unfold Attribute.sought at hne ⊢
  rw [Payload.given?_of_changes h] at hne ⊢
  cases hj : (a.given? m).bind a.passed? with
  | none => exact a.accepts_held f
  | some j =>
    rw [hj] at hne
    obtain ⟨v, -, hv⟩ := Option.bind_eq_some_iff.1 hj
    exact Attribute.accepts_of_passed? hv hne

theorem input_of_sought {α : Type} (f : Field) (h : Payload.changes m = .ok c) {read : List Step → Json → Checked α}
    {a : Attribute} {place : List Step} (hjudges : (read place (a.sought f c)).Judges place (a.sought f c))
    (haccepts : a.accepts (a.sought f c) = true → ∃ b, read place (a.sought f c) = .ok b) :
    ∀ i ∈ (read place (a.sought f c)).issues, i.input = .null := by
  intro i hi
  obtain ⟨hinput, hnot⟩ := hjudges.input_of_mem hi
  rw [hinput]
  by_contra hne
  exact hnot (haccepts (accepts_sought_of_changes f h hne))

/-- **What is refused only at last is null.** -/
theorem input_of_update (f : Field) (h : Payload.changes m = .ok c) : ∀ i ∈ (f.update c).issues, i.input = .null := by
  have hdefault : ∃ d?, Check.string? [.key "default_value"] (cleared (Attribute.default.sought f c)) = .ok d? := by
    refine (Attribute.accepts_default_iff _).2 ?_
    by_cases hnone : Attribute.default.sought f c = .null
    · rw [hnone]
      rfl
    · exact accepts_sought_of_changes f h hnone
  intro i hi
  obtain ⟨d?, hd⟩ := hdefault
  simp only [update_eq_sought f (Payload.nodup_of_changes h), hd, Checked.issues_seq, Checked.issues_map,
    Checked.issues_ok, List.mem_append, List.not_mem_nil, false_or, or_false] at hi
  rcases hi with (((hi | hi) | hi) | hi) | hi
  · exact input_of_sought f h (Check.judges_string _ _) (Attribute.accepts_text_iff _ (.inl rfl)).2 i hi
  · exact input_of_sought f h (Check.judges_string _ _) (Attribute.accepts_text_iff _ (.inr rfl)).2 i hi
  · exact input_of_sought f h (FieldType.judges_check _ _) (Attribute.accepts_type_iff _).2 i hi
  · exact input_of_sought f h (Check.judges_bool _ _) (Attribute.accepts_bool_iff _ (.inl rfl)).2 i hi
  · exact input_of_sought f h (Check.judges_bool _ _) (Attribute.accepts_bool_iff _ (.inr rfl)).2 i hi

end Field
end Scaffold
