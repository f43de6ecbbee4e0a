import Mathlib.Data.List.Nodup
import Scaffold.Proofs.Schema.Create
import Scaffold.Proofs.Sequence
import Scaffold.Schema.Edit
/-!
# Proofs.Schema.Ids — the ids of fields

A supply never gives an id twice (`idOf_injective`).  A schema that is created has the next ids of the supply, one for
each field in order, whatever ids came with the data (`ids_of_create`); after a refusal the supply is never behind.  An
edit leaves the list of ids as it is, but for the one id that it adds at the end or takes away (`ids_of_apply`).
-/
namespace Scaffold

/-! ## The supply -/

namespace Supply

def hexNumber (l : List Char) : Nat := l.foldl (fun n c => 16 * n + (Text.hexValue? c).getD 0) 0

theorem hexValue?_digitChar : ∀ d < 16, Text.hexValue? (Nat.digitChar d) = some d := by decide

theorem hexNumber_toDigits (n : Nat) : hexNumber (Nat.toDigits 16 n) = n := by
  induction n using Nat.strongRecOn with
  | ind n ih =>
    rw [Nat.toDigits_eq_if (by decide)]
    split
    · rename_i hlt
      simp [hexNumber, hexValue?_digitChar n hlt]
    · rename_i hge
      have hquotient : hexNumber (Nat.toDigits 16 (n / 16)) = n / 16 := ih (n / 16) (by omega)
      have hdigit := hexValue?_digitChar (n % 16) (Nat.mod_lt n (by decide))
      simp only [hexNumber] at hquotient ⊢
      rw [List.foldl_append, hquotient, List.foldl_cons, List.foldl_nil, hdigit]
      exact Nat.div_add_mod n 16

theorem hexNumber_zeros (k : Nat) (l : List Char) : hexNumber (List.replicate k '0' ++ l) = hexNumber l := by
  have hzeros : (List.replicate k '0').foldl (fun n c => 16 * n + (Text.hexValue? c).getD 0) 0 = 0 := by
    induction k with
    | zero => rfl
    | succ k ih => exact ih
  rw [hexNumber, List.foldl_append, hzeros]
  rfl

/-- **No id is given twice**: an id is read back as its number. -/
theorem idOf_injective : Function.Injective idOf := by
  have hread : Function.LeftInverse (fun id : String => hexNumber id.toList) idOf := fun n => by
    dsimp only
    rw [idOf, String.toList_ofList, hexNumber_zeros, hexNumber_toDigits]
  exact hread.injective

/-- The wording is an id that was drawn. -/
def Drawn (s : Supply) (w : Wording) : Prop := ∃ n ≤ s.drawn, w = idOf n

def upcoming (s : Supply) (count : Nat) : List Wording :=
  (List.range' (s.drawn + 1) count).map (fun n => (idOf n : Wording))

def after (s : Supply) (count : Nat) : Supply := ⟨s.drawn + count⟩

theorem ofText_idOf_injective : Function.Injective (fun n => (idOf n : Wording)) := fun a b h => by
  have hshown := congrArg Wording.shown h
  simpa using idOf_injective (by simpa using hshown)

theorem upcoming_succ (s : Supply) (count : Nat) :
    s.upcoming (count + 1) = (s.draw.1 : Wording) :: s.draw.2.upcoming count := by
  simp [upcoming, draw, List.range'_succ]

theorem length_upcoming (s : Supply) (count : Nat) : (s.upcoming count).length = count := by
  rw [upcoming, List.length_map, List.length_range']

theorem after_succ (s : Supply) (count : Nat) : s.after (count + 1) = s.draw.2.after count := by
  simp only [after, draw, mk.injEq]
  omega

theorem Drawn.mono {s t : Supply} {w : Wording} (h : s.Drawn w) (hle : s.drawn ≤ t.drawn) : t.Drawn w := by
  obtain ⟨n, hn, rfl⟩ := h
  exact ⟨n, Nat.le_trans hn hle, rfl⟩

theorem nodup_upcoming (s : Supply) (count : Nat) : (s.upcoming count).Nodup :=
  List.Nodup.map ofText_idOf_injective List.nodup_range'

theorem drawn_of_mem_upcoming {s : Supply} {count : Nat} {w : Wording} (h : w ∈ s.upcoming count) :
    ¬ s.Drawn w ∧ (s.after count).Drawn w := by
  obtain ⟨n, hn, rfl⟩ := List.mem_map.1 h
  rw [List.mem_range'_1] at hn
  refine ⟨?_, n, by simp only [after]; omega, rfl⟩
  rintro ⟨m, hm, heq⟩
  have := ofText_idOf_injective heq
  omega

end Supply

namespace Schema

def ids (s : Schema) : List Wording := s.fields.map Field.id

/-! ## Creation -/

theorem renewFields_spec : ∀ (l : List Field) (supply : Supply),
    (renewFields supply l).1.map Field.id = supply.upcoming l.length ∧ (renewFields supply l).2 = supply.after l.length
  | [], supply => ⟨rfl, rfl⟩
  | f :: rest, supply => by
    obtain ⟨hids, hafter⟩ := renewFields_spec rest supply.draw.2
    refine ⟨?_, ?_⟩
    · rw [List.length_cons, Supply.upcoming_succ, ← hids]
      rfl
    · rw [List.length_cons, Supply.after_succ, ← hafter]
      rfl

theorem get?_completed (id : Wording) (m : Json.Members) : (completed id m).get? "id" = some (.str id) := by
  have hlabel : ∀ v, Json.Members.get? ((m.set "id" (.str id)).set "label" v) "id" = some (.str id) := fun v => by
    rw [Json.Members.get?_set, if_neg (by decide), Json.Members.get?_set, if_pos rfl]
  simp only [completed]
  split
  · split
    · rw [Json.Members.get?_set, if_pos rfl]
    · exact hlabel _
  · exact hlabel _

def HasId (v : Json) (id : Wording) : Prop := ∃ m : Json.Members, v = .obj m ∧ m.get? "id" = some (.str id)

theorem completedAll_spec : ∀ (l : List Json) (supply : Supply),
    supply.drawn ≤ (completedAll supply l).2.drawn ∧ ∀ records, (completedAll supply l).1 = .ok records →
      (completedAll supply l).2 = supply.after records.length ∧
      List.Forall₂ HasId records (supply.upcoming records.length)
  | [], supply => ⟨Nat.le_refl _, fun records h => by cases h; exact ⟨rfl, .nil⟩⟩
  | v :: rest, supply => by
    obtain ⟨hle, hrest⟩ := completedAll_spec rest supply.draw.2
    have hdrawn : supply.draw.2.drawn = supply.drawn + 1 := rfl
    unfold completedAll
    cases v.record with
    | error e => exact ⟨Nat.le_refl _, fun records h => by cases h⟩
    | ok m =>
      dsimp only
      generalize completedAll supply.draw.2 rest = result at hle hrest
      obtain ⟨e | records, after⟩ := result
      · exact ⟨by dsimp only at hle ⊢; omega, fun records h => by cases h⟩
      · obtain ⟨rfl, hids⟩ := hrest records rfl
        refine ⟨by dsimp only at hle ⊢; omega, fun all h => ?_⟩
        cases h
        refine ⟨?_, ?_⟩
        · rw [List.length_cons, Supply.after_succ]
        · rw [List.length_cons, Supply.upcoming_succ]
          exact .cons ⟨_, rfl, get?_completed _ m⟩ hids

theorem id_of_check {place : List Step} {v : Json} {id : Wording} {f : Field} (hid : HasId v id)
    (h : Field.check place v = .ok f) : f.id = id := by
  obtain ⟨m, rfl, hget⟩ := hid
  obtain ⟨hread, -⟩ := Field.ofMembers_eq_ok_iff.1 h
  rw [Check.required_of_get? hget] at hread
  exact (Checked.ok.inj hread).symm

theorem ids_of_checkFields {place : List Step} {records : List Json} {ids : List Wording} {fields : List Field}
    (hids : List.Forall₂ HasId records ids) (h : checkFields place (.arr records) = .ok fields) :
    fields.map Field.id = ids := by
  have hfields : ∀ {l : List Json} {ids : List Wording} {fields : List Field}, List.Forall₂ HasId l ids →
      List.Forall₂ (fun v f => ∃ place, Field.check place v = .ok f) l fields → fields.map Field.id = ids := by
    intro l ids fields hids hchecked
    induction hids generalizing fields with
    | nil =>
      cases hchecked
      rfl
    | cons hid _ ih =>
      obtain _ | ⟨⟨place, hf⟩, hrest⟩ := hchecked
      rw [List.map_cons, id_of_check hid hf, ih hrest]
  exact hfields hids (Checked.forall₂_of_list h)

theorem length_of_ids {l : List Field} {supply : Supply} {count : Nat} (h : l.map Field.id = supply.upcoming count) :
    l.length = count := by
  rw [← List.length_map, h, Supply.length_upcoming]

theorem ids_of_renew (supply : Supply) (s : Schema) :
    (renew supply s).1.ids = supply.upcoming (renew supply s).1.fields.length ∧
      (renew supply s).2 = supply.after (renew supply s).1.fields.length := by
  obtain ⟨hids, hafter⟩ := renewFields_spec s.fields supply
  show (renewFields supply s.fields).1.map Field.id = supply.upcoming (renewFields supply s.fields).1.length ∧
    (renewFields supply s.fields).2 = supply.after (renewFields supply s.fields).1.length
  rw [length_of_ids hids]
  exact ⟨hids, hafter⟩

theorem ids_of_createFromData (supply : Supply) (v : Json) :
    supply.drawn ≤ (createFromData supply v).2.drawn ∧ ∀ s, (createFromData supply v).1 = .ok s →
      s.ids = supply.upcoming s.fields.length ∧ (createFromData supply v).2 = supply.after s.fields.length := by
  have hdata := fromData supply v
  generalize createFromData supply v = result at hdata
  have hcompleted : ∀ {raw result after}, completedAll supply raw = (result, after) → supply.drawn ≤ after.drawn ∧
      ∀ records, result = .ok records →
        after = supply.after records.length ∧ List.Forall₂ HasId records (supply.upcoming records.length) := by
    intro raw result after heq
    simpa only [heq] using completedAll_spec raw supply
  cases hdata with
  | noRecord | noFields => exact ⟨Nat.le_refl _, fun s h => by cases h⟩
  | noRecords _ _ h => exact ⟨(hcompleted h).1, fun s h => by cases h⟩
  | refused _ _ h => exact ⟨(hcompleted h).1, fun s h => by cases h⟩
  | made _ _ h hmade =>
    obtain ⟨hle, hrecords⟩ := hcompleted h
    obtain ⟨hafter, hids⟩ := hrecords _ rfl
    have hfields := ids_of_checkFields hids (fields_of_ofMembers (Json.Members.get?_set_self _ _ _) hmade)
    refine ⟨hle, fun t ht => ?_⟩
    obtain rfl := Except.ok.inj ht
    rw [length_of_ids hfields]
    exact ⟨hfields, hafter⟩

/-- **A schema that is created has the next ids of the supply**, one for each field in order; the supply is never
behind, also where none is created. -/
theorem ids_of_create (supply : Supply) (i : Interpretation) :
    supply.drawn ≤ (create supply i).2.drawn ∧ ∀ s, (create supply i).1 = .ok s →
      s.ids = supply.upcoming s.fields.length ∧ (create supply i).2 = supply.after s.fields.length := by
  cases i with
  | schema s =>
    obtain ⟨hids, hafter⟩ := ids_of_renew supply s
    refine ⟨?_, fun t ht => ?_⟩
    · show supply.drawn ≤ (renew supply s).2.drawn
      rw [hafter]
      exact Nat.le_add_right _ _
    · obtain rfl := Except.ok.inj ht
      exact ⟨hids, hafter⟩
  | data v => exact ids_of_createFromData supply v

end Schema

/-! ## Edits -/

namespace Field

theorem get?_merge_of_not_mem {key : Wording} : ∀ (changes m : Json.Members), key ∉ changes.map Prod.fst →
    Json.Members.get? (Entries.merge m changes) key = m.get? key
  | [], _, _ => rfl
  | c :: changes, m, h => by
    rw [List.map_cons, List.mem_cons, not_or] at h
    obtain ⟨hc, hchanges⟩ := h
    have hset : Json.Members.get? (m.set c.1 c.2) key = m.get? key := by
      rw [Json.Members.get?_set, if_neg (Ne.symm hc)]
    exact (get?_merge_of_not_mem changes (m.set c.1 c.2) hchanges).trans hset

theorem get?_changedMembers_of_ne (f : Field) (changes : Json.Members) {key : Wording} (hvalue : key ≠ "default_value")
    (halias : key ≠ "defaultValue") :
    (f.changedMembers changes).get? key = Json.Members.get? (Entries.merge f.members (changes.erase "id")) key := by
  have hset : ∀ (m : Json.Members) (v : Json), (m.set "default_value" v).get? key = m.get? key := fun m v => by
    rw [Json.Members.get?_set, if_neg (Ne.symm hvalue)]
  have hrenamed : ∀ (m : Json.Members) (v : Json),
      ((m.erase "defaultValue").set "default_value" v).get? key = m.get? key := fun m v => by
    rw [hset, Json.Members.get?_erase, if_neg (Ne.symm halias)]
  simp only [changedMembers]
  -- an empty default is cleared last, whatever the members are by then
  split
  · rw [hset]
    split
    · exact hrenamed _ _
    · rfl
  · split
    · exact hrenamed _ _
    · rfl

/-- **No change gets at the id**, also if it is called like it. -/
theorem get?_changedMembers (f : Field) (changes : Json.Members) :
    (f.changedMembers changes).get? "id" = some (.str f.id) := by
  have hnot : Wording.ofText "id" ∉ (changes.erase "id").map Prod.fst := by
    rw [← Entries.get?_eq_none_iff]
    exact (changes.get?_erase "id" "id").trans (if_pos rfl)
  rw [get?_changedMembers_of_ne f changes (by decide) (by decide)]
  exact get?_merge_of_not_mem _ _ hnot

theorem id_of_update {f g : Field} {changes : Json.Members} (h : f.update changes = .ok g) : g.id = f.id :=
  Schema.id_of_check (v := .obj (f.changedMembers changes)) ⟨_, rfl, f.get?_changedMembers changes⟩ h

end Field

namespace Edit

def added (supply : Supply) : Edit → List Wording
  | .addField => [(supply.draw.1 : Wording)]
  | _ => []

def removed : Edit → List Wording
  | .removeField id => [(id : Wording)]
  | _ => []

theorem added_eq_upcoming (supply : Supply) (e : Edit) : e.added supply = supply.upcoming (e.added supply).length := by
  cases e <;> rfl

theorem drawn_of_mem_added {supply : Supply} {e : Edit} {id : Wording} (h : id ∈ e.added supply) :
    ¬ supply.Drawn id ∧ (supply.after (e.added supply).length).Drawn id :=
  Supply.drawn_of_mem_upcoming (e.added_eq_upcoming supply ▸ h)

theorem nodup_added (supply : Supply) (e : Edit) : (e.added supply).Nodup := by
  rw [added_eq_upcoming]
  exact supply.nodup_upcoming _

end Edit

namespace Schema

theorem ids_of_updateFields {id : String} {changes : Json.Members} : ∀ {l r : List Field},
    updateFields id changes l = .ok r → r.map Field.id = l.map Field.id
  | [], r, h => by cases h
  | f :: l, r, h => by
    unfold updateFields at h
    split at h
    · split at h
      · rename_i g hg
        obtain rfl := Except.ok.inj h
        rw [List.map_cons, List.map_cons, Field.id_of_update hg]
      · cases h
    · obtain ⟨rest, hrest, rfl⟩ := Sequence.map_eq_ok_iff.1 h
      rw [List.map_cons, List.map_cons, ids_of_updateFields hrest]

theorem ids_of_toggleOperation {s t : Schema} {v : Json} (h : s.toggleOperation v = .ok t) : t.ids = s.ids := by
  unfold toggleOperation at h
  split at h
  · obtain rfl := Except.ok.inj h
    rfl
  · cases h

theorem ids_of_updateField {s t : Schema} {id : String} {changes : Json.Members}
    (h : s.updateField id changes = .ok t) : t.ids = s.ids := by
  obtain ⟨-, -, h⟩ := Sequence.bind_eq_ok_iff.1 h
  obtain ⟨fields, hfields, h⟩ := Sequence.bind_eq_ok_iff.1 h
  obtain rfl := Except.ok.inj h
  exact ids_of_updateFields hfields

theorem mem_ids_of_field? {s : Schema} {id : Wording} {f : Field} (h : s.field? id = some f) : id ∈ s.ids := by
  have hid : f.id = id := by simpa using List.find?_some h
  exact List.mem_map.2 ⟨f, List.mem_of_find?_eq_some h, hid⟩

theorem ids_of_removeField {s t : Schema} {id : String} (h : s.removeField id = .ok t) :
    t.ids = s.ids.filter (fun x => x ≠ (id : Wording)) ∧ (id : Wording) ∈ s.ids := by
  unfold removeField at h
  split at h
  · cases h
  · rename_i f hf
    obtain rfl := Except.ok.inj h
    refine ⟨?_, mem_ids_of_field? hf⟩
    simp [ids, List.filter_map, Function.comp_def]

/-- **What an edit does to the ids**: it adds at most one at the end, which it draws, and takes at most one away, which
was there.  All others stay, in their order. -/
theorem ids_of_apply {s t : Schema} {supply after : Supply} {e : Edit} (h : s.apply supply e = .ok (t, after)) :
    t.ids = (s.ids ++ e.added supply).filter (fun x => x ∉ e.removed) ∧
      after = supply.after (e.added supply).length ∧ e.removed ⊆ s.ids := by
  -- most edits leave the ids alone
  have hsame : t.ids = s.ids → after = supply → e.added supply = [] → e.removed = [] →
      t.ids = (s.ids ++ e.added supply).filter (fun x => x ∉ e.removed) ∧
        after = supply.after (e.added supply).length ∧ e.removed ⊆ s.ids := by
    intro hids hafter hadded hremoved
    simp [hids, hafter, hadded, hremoved, Supply.after]
  cases e with
  | setEntityName name =>
    obtain ⟨rfl, rfl⟩ := Prod.mk.inj (Except.ok.inj h)
    exact hsame rfl rfl rfl rfl
  | setPagination enabled =>
    obtain ⟨rfl, rfl⟩ := Prod.mk.inj (Except.ok.inj h)
    exact hsame rfl rfl rfl rfl
  | toggleOperation v =>
    obtain ⟨u, hu, heq⟩ := Sequence.map_eq_ok_iff.1 h
    obtain ⟨rfl, rfl⟩ := Prod.mk.inj heq
    exact hsame (ids_of_toggleOperation hu) rfl rfl rfl
  | updateField id changes =>
    obtain ⟨u, hu, heq⟩ := Sequence.map_eq_ok_iff.1 h
    obtain ⟨rfl, rfl⟩ := Prod.mk.inj heq
    exact hsame (ids_of_updateField hu) rfl rfl rfl
  | addField =>
    obtain ⟨rfl, rfl⟩ := Prod.mk.inj (Except.ok.inj h)
    refine ⟨?_, rfl, List.nil_subset _⟩
    simp [ids, addField, Field.fresh, Edit.added, Edit.removed, Supply.draw]
  | removeField id =>
    obtain ⟨u, hu, heq⟩ := Sequence.map_eq_ok_iff.1 h
    obtain ⟨rfl, rfl⟩ := Prod.mk.inj heq
    obtain ⟨hids, hmem⟩ := ids_of_removeField hu
    exact ⟨by simp [hids, Edit.added, Edit.removed], rfl,
      List.cons_subset.2 ⟨hmem, List.nil_subset _⟩⟩

theorem fresh_of_apply {s t : Schema} {supply after : Supply} {e : Edit} (h : s.apply supply e = .ok (t, after))
    (hnodup : s.ids.Nodup) (hdrawn : ∀ id ∈ s.ids, supply.Drawn id) : t.ids.Nodup ∧ ∀ id ∈ t.ids, after.Drawn id := by
  obtain ⟨hids, hafter, -⟩ := ids_of_apply h
  have hnew : ∀ id ∈ e.added supply, ¬ supply.Drawn id ∧ after.Drawn id := fun id hid => by
    rw [hafter]
    exact e.drawn_of_mem_added hid
  have hle : supply.drawn ≤ after.drawn := by
    rw [hafter]
    exact Nat.le_add_right _ _
  rw [hids]
  refine ⟨List.Nodup.filter _ (List.nodup_append.2 ⟨hnodup, e.nodup_added _, ?_⟩), fun id hid => ?_⟩
  · rintro id hold _ hadded rfl
    exact (hnew id hadded).1 (hdrawn id hold)
  · rcases List.mem_append.1 (List.mem_filter.1 hid).1 with hold | hadded
    · exact (hdrawn id hold).mono hle
    · exact (hnew id hadded).2

end Schema
end Scaffold
