import Scaffold.Proofs.Schema.Ids
/-!
# Proofs.Schema.Update — what an update of a field leaves alone

An update goes through all members of the field: they are written out, overridden by the changes and read again.  What
is not named in the changes comes back as it was, with one exception: an empty default value is cleared, also where the
changes have nothing to do with it (`update_keeps_unnamed`).
-/
namespace Scaffold

theorem Wording.isEmpty_iff {w : Wording} : w.isEmpty = true ↔ w = "" := by
  obtain ⟨signs⟩ := w
  rw [isEmpty, List.isEmpty_iff, ofText, mk.injEq]
  rfl

namespace FieldType

theorem check_name (place : List Step) (t : FieldType) : check place (.str t.name) = .ok t := by
  have hname : ofName? t.name = some t := by cases t <;> decide
  rw [check, Check.text, Wording.text?_ofText]
  simp only [hname]

end FieldType

namespace Field

def Names (changes : Json.Members) (keys : List String) : Prop := ∃ key ∈ keys, (key : Wording) ∈ changes.map Prod.fst

instance (changes : Json.Members) (keys : List String) : Decidable (Names changes keys) :=
  inferInstanceAs (Decidable (∃ key ∈ keys, (key : Wording) ∈ changes.map Prod.fst))

theorem not_mem_erase_of_not_names {changes : Json.Members} {keys : List String} (h : ¬ Names changes keys) :
    ∀ key ∈ keys, (key : Wording) ∉ (changes.erase "id").map Prod.fst := fun key hkey hmem => by
  obtain ⟨c, hc, heq⟩ := List.mem_map.1 hmem
  exact h ⟨key, hkey, heq ▸ List.mem_map_of_mem (List.mem_of_mem_filter hc)⟩

theorem get?_changedMembers_of_not_names (f : Field) {changes : Json.Members} {key : String}
    (hvalue : (key : Wording) ≠ "default_value") (halias : (key : Wording) ≠ "defaultValue")
    (h : ¬ Names changes [key]) : (f.changedMembers changes).get? key = f.members.get? key := by
  rw [get?_changedMembers_of_ne f changes hvalue halias]
  exact get?_merge_of_not_mem _ _ (not_mem_erase_of_not_names h key List.mem_cons_self)

theorem lookup?_defaultKeys {m : Json.Members} {v : Json} (halias : m.get? "defaultValue" = none)
    (hvalue : m.get? "default_value" = some v) : Check.lookup? m defaultKeys = some ("default_value", v) := by
  simp [defaultKeys, Check.lookup?, halias, hvalue]

theorem lookup?_changedMembers_default (f : Field) {changes : Json.Members} (h : ¬ Names changes defaultKeys) :
    Check.lookup? (f.changedMembers changes) defaultKeys =
      some ("default_value", Json.ofWording? (f.default?.filter (fun w => !w.isEmpty))) := by
  let merged : Json.Members := Entries.merge f.members (changes.erase "id")
  have herased := not_mem_erase_of_not_names h
  have hvalue : merged.get? "default_value" = some (Json.ofWording? f.default?) :=
    get?_merge_of_not_mem _ _ (herased _ (by decide))
  have halias : merged.get? "defaultValue" = none := get?_merge_of_not_mem _ _ (herased _ (by decide))
  have hunnamed : (changes.erase "id").get? "defaultValue" = none :=
    (Entries.get?_eq_none_iff _ _).2 (herased _ (by decide))
  simp only [changedMembers, hunnamed]
  rw [hvalue]
  cases hd : f.default? with
  | none => exact lookup?_defaultKeys halias (hvalue.trans (by rw [hd]; rfl))
  | some w =>
    obtain ⟨_ | ⟨x, signs⟩⟩ := w
    · -- an empty default is overwritten, named or not
      refine lookup?_defaultKeys ?_ ?_
      · exact (Json.Members.get?_set _ _ _ _).trans ((if_neg (by decide)).trans halias)
      · exact (Json.Members.get?_set _ _ _ _).trans (if_pos rfl)
    · exact lookup?_defaultKeys halias (hvalue.trans (by rw [hd]; rfl))

/-- **What an update keeps of a field**: its id, and each attribute that is not named in the changes, the default value
aside. -/
structure Keeps (changes : Json.Members) (f g : Field) : Prop where
  id : g.id = f.id
  name : ¬ Names changes ["name"] → g.name = f.name
  label : ¬ Names changes ["label"] → g.label = f.label
  type : ¬ Names changes ["type"] → g.type = f.type
  required : ¬ Names changes ["required"] → g.required = f.required
  indexed : ¬ Names changes ["indexed"] → g.indexed = f.indexed

variable {f g : Field} {changes : Json.Members}

theorem keeps_of_update (h : f.update changes = .ok g) : Keeps changes f g := by
  obtain ⟨-, hname, hlabel, htype, hrequired, -, hindexed⟩ := ofMembers_eq_ok_iff.1 h
  have hkept := fun (key : String) hvalue halias (hkey : ¬ Names changes [key]) =>
    f.get?_changedMembers_of_not_names hvalue halias hkey
  refine ⟨id_of_update h, fun hnot => ?_, fun hnot => ?_, fun hnot => ?_, fun hnot => ?_, fun hnot => ?_⟩
  · have hget := (hkept "name" (by decide) (by decide) hnot).trans (by rfl : _ = some (Json.str f.name))
    rw [Check.required_of_get? hget] at hname
    exact (Checked.ok.inj hname).symm
  · have hget := (hkept "label" (by decide) (by decide) hnot).trans (by rfl : _ = some (Json.str f.label))
    rw [Check.optional_of_get? hget] at hlabel
    exact (Checked.ok.inj hlabel).symm
  · have hget := (hkept "type" (by decide) (by decide) hnot).trans (by rfl : _ = some (Json.str f.type.name))
    rw [Check.optional_of_get? hget, FieldType.check_name] at htype
    exact (Checked.ok.inj htype).symm
  · have hget := (hkept "required" (by decide) (by decide) hnot).trans (by rfl : _ = some (Json.bool f.required))
    rw [Check.optional_of_get? hget] at hrequired
    exact (Checked.ok.inj hrequired).symm
  · have hget := (hkept "indexed" (by decide) (by decide) hnot).trans (by rfl : _ = some (Json.bool f.indexed))
    rw [Check.optional_of_get? hget] at hindexed
    exact (Checked.ok.inj hindexed).symm

theorem default_of_update (h : f.update changes = .ok g) (hnot : ¬ Names changes defaultKeys) :
    g.default? = f.default?.filter (fun w => !w.isEmpty) := by
  obtain ⟨-, -, -, -, -, hdefault, -⟩ := ofMembers_eq_ok_iff.1 h
  rw [Check.optional, f.lookup?_changedMembers_default hnot] at hdefault
  cases hd : f.default?.filter (fun w => !w.isEmpty) <;> rw [hd] at hdefault <;> exact (Checked.ok.inj hdefault).symm

end Field

namespace Schema

theorem updateFields_eq_ok_iff {id : String} {changes : Json.Members} : ∀ {l r : List Field},
    updateFields id changes l = .ok r ↔ ∃ before f g after, l = before ++ f :: after ∧ r = before ++ g :: after ∧
      (∀ e ∈ before, e.id ≠ (id : Wording)) ∧ f.id = (id : Wording) ∧ f.update changes = .ok g
  | [], r => by simp [updateFields]
  | e :: l, r => by
    unfold updateFields
    by_cases hid : e.id = (id : Wording)
    · rw [if_pos hid]
      constructor
      · intro h
        split at h
        · rename_i g hg
          exact ⟨[], e, g, l, rfl, (Except.ok.inj h).symm, by simp, hid, hg⟩
        · cases h
      · rintro ⟨before, f, g, after, hl, rfl, hbefore, -, hg⟩
        cases before with
        | nil =>
          obtain ⟨rfl, rfl⟩ := List.cons.inj hl
          rw [hg]
          rfl
        | cons b before =>
          obtain ⟨rfl, -⟩ := List.cons.inj hl
          exact absurd hid (hbefore _ List.mem_cons_self)
    · rw [if_neg hid, Sequence.map_eq_ok_iff]
      constructor
      · rintro ⟨rest, hrest, rfl⟩
        obtain ⟨before, f, g, after, rfl, rfl, hbefore, hf, hg⟩ := updateFields_eq_ok_iff.1 hrest
        exact ⟨e :: before, f, g, after, rfl, rfl, List.forall_mem_cons.2 ⟨hid, hbefore⟩, hf, hg⟩
      · rintro ⟨before, f, g, after, hl, rfl, hbefore, hf, hg⟩
        cases before with
        | nil =>
          obtain ⟨rfl, -⟩ := List.cons.inj hl
          exact absurd hf hid
        | cons b before =>
          obtain ⟨rfl, rfl⟩ := List.cons.inj hl
          exact ⟨_, updateFields_eq_ok_iff.2 ⟨before, f, g, after, rfl, rfl,
            fun x hx => hbefore x (List.mem_cons_of_mem _ hx), hf, hg⟩, rfl⟩

/-- **An update keeps whatever the changes do not name, but an empty default.**  Only the first field with the id is
replaced; a default value that is not named stays exactly if it is not empty, and an empty one is gone. -/
theorem update_keeps_unnamed {s t : Schema} {id : String} {changes : Json.Members}
    (h : s.updateField id changes = .ok t) : ∃ before f g after, s.fields = before ++ f :: after ∧
      t = { s with fields := before ++ g :: after } ∧ (∀ e ∈ before, e.id ≠ (id : Wording)) ∧ f.id = (id : Wording) ∧
      Field.Keeps changes f g ∧
      (¬ Field.Names changes Field.defaultKeys →
        (g.default? = f.default? ↔ f.default? ≠ some ("" : Wording)) ∧
          (f.default? = some ("" : Wording) → g.default? = none)) := by
  obtain ⟨-, -, h⟩ := Sequence.bind_eq_ok_iff.1 h
  obtain ⟨fields, hfields, h⟩ := Sequence.bind_eq_ok_iff.1 h
  obtain rfl := Except.ok.inj h
  obtain ⟨before, f, g, after, hs, rfl, hbefore, hf, hg⟩ := updateFields_eq_ok_iff.1 hfields
  refine ⟨before, f, g, after, hs, rfl, hbefore, hf, Field.keeps_of_update hg, fun hnot => ?_⟩
  rw [Field.default_of_update hg hnot]
  cases f.default? with
  | none => simp
  | some w =>
    by_cases hempty : w = ""
    · obtain rfl := hempty
      exact ⟨by decide, fun _ => rfl⟩
    · have hne : some w ≠ some ("" : Wording) := fun heq => hempty (Option.some.inj heq)
      have hfull : w.isEmpty = false := Bool.eq_false_iff.2 (mt Wording.isEmpty_iff.1 hempty)
      rw [Option.filter_some_pos (by rw [hfull]; rfl)]
      exact ⟨⟨fun _ => hne, fun _ => rfl⟩, fun heq => absurd heq hne⟩

def titled (default : String) : Schema :=
  { entityName := "Book",
    fields := [{ id := "1", name := "title", label := "Title", default? := some (default : Wording) },
      { id := "2", name := "stock", type := .number }] }

def relabel : Json.Members := [("label", .str "Heading")]

def relabelled (default? : Option Wording) : Schema :=
  { entityName := "Book",
    fields := [{ id := "1", name := "title", label := "Heading", default? := default? },
      { id := "2", name := "stock", type := .number }] }

/-- A new label leaves the name and the default value of the title alone. -/
theorem title_kept : (titled "-").updateField "1" relabel = .ok (relabelled (some "-")) ∧
    ∃ before f g after, (titled "-").fields = before ++ f :: after ∧ f.id = ("1" : Wording) ∧
      (relabelled (some "-")).fields = before ++ g :: after ∧ g.name = f.name ∧ g.default? = f.default? := by
  have hupdate : (titled "-").updateField "1" relabel = .ok (relabelled (some "-")) :=
    Sequence.toOption_eq_some_iff.1 (by decide +kernel)
  have hname : ¬ Field.Names relabel ["name"] := by decide +kernel
  have hdefault : ¬ Field.Names relabel Field.defaultKeys := by decide +kernel
  obtain ⟨before, f, g, after, hs, ht, hbefore, hf, hkeeps, hkept⟩ := update_keeps_unnamed hupdate
  have hall : ∀ e ∈ (titled "-").fields, e.default? ≠ some ("" : Wording) := by decide +kernel
  have hfull := hall f (hs ▸ List.mem_append_right _ List.mem_cons_self)
  exact ⟨hupdate, before, f, g, after, hs, hf, congrArg Schema.fields ht, hkeeps.name hname, (hkept hdefault).1.2 hfull⟩

/-- **A new label takes the empty default value of the title away.** -/
theorem empty_default_lost : (titled "").updateField "1" relabel = .ok (relabelled none) ∧
    ¬ Field.Names relabel Field.defaultKeys :=
  ⟨Sequence.toOption_eq_some_iff.1 (by decide +kernel), by decide +kernel⟩

end Schema
end Scaffold
