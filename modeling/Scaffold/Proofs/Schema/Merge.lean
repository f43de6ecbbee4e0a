import Scaffold.Proofs.Schema.Passing
/-!
# Proofs.Schema.Merge — successive updates of a field

An update reads the changes, and the attributes that they do not name as they were written out.  A value that was read
is read again as it is, so after an update the next one comes to what both come to when the later changes override the
earlier ones (`successive_updates_merge`).  The two spellings of the default value are the exception: among changes that
are merged, its key in the data format goes first.
-/
namespace Scaffold

namespace Entries

variable {κ α : Type} [DecidableEq κ]

theorem set_eq_self {key : κ} {value : α} : ∀ {l : Entries κ α}, get? key l = some value → set key value l = l
  | [], h => by cases h
  | (k, v) :: rest, h => by
    by_cases hk : k = key
    · rw [get?, if_pos hk] at h
      rw [set, if_pos hk, Option.some.inj h]
    · rw [get?, if_neg hk] at h
      rw [set, if_neg hk, set_eq_self h]

theorem merge_of_subset (l : Entries κ α) : ∀ {m : Entries κ α}, (∀ e ∈ m, get? e.1 l = some e.2) → merge l m = l
  | [], _ => rfl
  | e :: m, h => by
    obtain ⟨he, hm⟩ := List.forall_mem_cons.1 h
    have hset : set e.1 e.2 l = l := set_eq_self he
    rw [merge, List.foldl_cons, hset]
    exact merge_of_subset l hm

theorem merge_self {l : Entries κ α} (h : (l.map Prod.fst).Nodup) : merge l l = l :=
  merge_of_subset l (fun e he => (get?_eq_some_iff e.1 e.2 l h).2 he)

theorem nodup_merge {l : Entries κ α} (h : (l.map Prod.fst).Nodup) (m : Entries κ α) :
    ((merge l m).map Prod.fst).Nodup := by
  induction m generalizing l with
  | nil => exact h
  | cons e m ih => exact ih (nodup_set e.1 e.2 l h)

theorem find?_keys_merge (p : κ → Bool) (m : Entries κ α) : ∀ l : Entries κ α,
    ((merge l m).map Prod.fst).find? p = ((l.map Prod.fst).find? p).or ((m.map Prod.fst).find? p) := by
  induction m with
  | nil => simp [merge]
  | cons e m ih =>
    intro l
    have hstep : merge l (e :: m) = merge (set e.1 e.2 l) m := rfl
    rw [hstep, ih, map_fst_set, List.map_cons, List.find?_cons]
    split
    · rename_i hmem
      cases hp : p e.1 with
      | false => rfl
      | true =>
        -- it is among the former if it is overridden
        obtain ⟨k, hk⟩ := Option.isSome_iff_exists.1 (List.find?_isSome.2 ⟨e.1, hmem, hp⟩)
        rw [hk]
        rfl
    · rw [List.find?_append, List.find?_singleton, Option.or_assoc]
      cases p e.1 <;> simp

end Entries

namespace Field

/-- **The default value that changes set**, under its key in the data format if it is there, and else under its name. -/
def setDefault? (changes : Json.Members) : Option Json :=
  (changes.get? "defaultValue").or (changes.get? "default_value")

def cleared : Json → Json
  | .str ⟨[]⟩ => .null
  | v => v

theorem string?_cleared {place : List Step} {v : Json} {default? : Option Wording}
    (h : Check.string? place (cleared v) = .ok default?) (place' : List Step) :
    Check.string? place' (cleared (Json.ofWording? default?)) = .ok default? := by
  cases v with
  | null =>
    obtain rfl := Checked.ok.inj h
    rfl
  | str w =>
    obtain ⟨_ | ⟨x, signs⟩⟩ := w
    · obtain rfl := Checked.ok.inj h
      rfl
    · obtain rfl := Checked.ok.inj h
      rfl
  | _ => cases h

variable {f g : Field} {c c' : Json.Members}

theorem nodup_erase (hkeys : (c.map Prod.fst).Nodup) (key : Wording) : ((c.erase key).map Prod.fst).Nodup :=
  hkeys.sublist ((List.filter_sublist).map Prod.fst)

theorem get?_changedMembers_attribute (f : Field) (hkeys : (c.map Prod.fst).Nodup) {key : Wording} (hid : key ≠ "id")
    (hvalue : key ≠ "default_value") (halias : key ≠ "defaultValue") {v : Json} (hv : f.members.get? key = some v) :
    (f.changedMembers c).get? key = some ((c.get? key).getD v) := by
  have herase : (c.erase "id").get? key = c.get? key := by
    rw [Json.Members.get?_erase, if_neg (Ne.symm hid)]
  have hmerge : Json.Members.get? (Entries.merge f.members (c.erase "id")) key =
      ((c.erase "id").get? key).or (f.members.get? key) :=
    Entries.get?_merge key f.members (nodup_erase hkeys "id")
  rw [get?_changedMembers_of_ne f c hvalue halias, hmerge, herase, hv]
  cases c.get? key <;> rfl

def renamedDefault (changes merged : Json.Members) : Json.Members :=
  match changes.get? "defaultValue" with
  | some v => (merged.erase "defaultValue").set "default_value" v
  | none => merged

def clearedDefault (m : Json.Members) : Json.Members :=
  match m.get? "default_value" with
  | some (.str ⟨[]⟩) => m.set "default_value" .null
  | _ => m

theorem changedMembers_eq (f : Field) (c : Json.Members) : f.changedMembers c =
    clearedDefault (renamedDefault (c.erase "id") (Entries.merge f.members (c.erase "id"))) := rfl

theorem lookup?_clearedDefault {m : Json.Members} {v : Json} (halias : m.get? "defaultValue" = none)
    (hvalue : m.get? "default_value" = some v) :
    Check.lookup? (clearedDefault m) defaultKeys = some ("default_value", cleared v) := by
  unfold clearedDefault
  rw [hvalue]
  split
  · rename_i heq
    obtain rfl := Option.some.inj heq
    refine lookup?_defaultKeys ?_ ?_
    · rw [Json.Members.get?_set, if_neg (by decide), halias]
    · rw [Json.Members.get?_set, if_pos rfl]
      rfl
  · rename_i hfull
    have hkept : cleared v = v := by
      unfold cleared
      split
      · exact absurd rfl hfull
      · rfl
    rw [hkept]
    exact lookup?_defaultKeys halias hvalue

theorem lookup?_changedMembers (f : Field) (hkeys : (c.map Prod.fst).Nodup) :
    Check.lookup? (f.changedMembers c) defaultKeys =
      some ("default_value", cleared ((setDefault? c).getD (Json.ofWording? f.default?))) := by
  let merged : Json.Members := Entries.merge f.members (c.erase "id")
  have herase : ∀ {key : Wording}, key ≠ "id" → (c.erase "id").get? key = c.get? key := fun hid => by
    rw [Json.Members.get?_erase, if_neg (Ne.symm hid)]
  have hmerged : ∀ key : Wording, key ≠ "id" → merged.get? key = (c.get? key).or (f.members.get? key) := by
    intro key hid
    rw [← herase hid]
    exact Entries.get?_merge key f.members (nodup_erase hkeys "id")
  have hname := hmerged "default_value" (by decide)
  have hformat := hmerged "defaultValue" (by decide)
  have hwritten : f.members.get? "default_value" = some (Json.ofWording? f.default?) := rfl
  rw [changedMembers_eq, renamedDefault, herase (by decide), setDefault?]
  cases halias : c.get? "defaultValue" with
  | none =>
    rw [halias] at hformat
    refine lookup?_clearedDefault hformat ?_
    rw [hname, hwritten]
    cases c.get? "default_value" <;> rfl
  | some v =>
    refine lookup?_clearedDefault ?_ ?_
    · rw [Json.Members.get?_set, if_neg (by decide), Json.Members.get?_erase, if_pos rfl]
    · rw [Json.Members.get?_set, if_pos rfl]
      rfl

/-- **What an update reads**: for each attribute what the changes say, or the attribute written out. -/
theorem parts_changedMembers (f : Field) (hkeys : (c.map Prod.fst).Nodup) :
    let m := f.changedMembers c
    Check.required m [] ["id"] Check.string = .ok f.id ∧
    Check.required m [] ["name"] Check.string = Check.string [.key "name"] ((c.get? "name").getD (.str f.name)) ∧
    Check.optional m [] ["label"] ("" : Wording) Check.string =
      Check.string [.key "label"] ((c.get? "label").getD (.str f.label)) ∧
    Check.optional m [] ["type"] .string FieldType.check =
      FieldType.check [.key "type"] ((c.get? "type").getD (.str f.type.name)) ∧
    Check.optional m [] ["required"] false Check.bool =
      Check.bool [.key "required"] ((c.get? "required").getD (.bool f.required)) ∧
    Check.optional m [] defaultKeys none Check.string? =
      Check.string? [.key "default_value"] (cleared ((setDefault? c).getD (Json.ofWording? f.default?))) ∧
    Check.optional m [] ["indexed"] false Check.bool =
      Check.bool [.key "indexed"] ((c.get? "indexed").getD (.bool f.indexed)) := by
  have hget : ∀ {key : Wording} {v : Json}, key ≠ "id" → key ≠ "default_value" → key ≠ "defaultValue" →
      f.members.get? key = some v → (f.changedMembers c).get? key = some ((c.get? key).getD v) :=
    fun hid hvalue halias hv => f.get?_changedMembers_attribute hkeys hid hvalue halias hv
  refine ⟨?_, ?_, ?_, ?_, ?_, ?_, ?_⟩
  · exact Check.required_of_get? (f.get?_changedMembers c)
  · exact Check.required_of_get? (hget (by decide) (by decide) (by decide) rfl)
  · exact Check.optional_of_get? (hget (by decide) (by decide) (by decide) rfl)
  · exact Check.optional_of_get? (hget (by decide) (by decide) (by decide) rfl)
  · exact Check.optional_of_get? (hget (by decide) (by decide) (by decide) rfl)
  · rw [Check.optional, f.lookup?_changedMembers hkeys]
    rfl
  · exact Check.optional_of_get? (hget (by decide) (by decide) (by decide) rfl)

theorem update_eq (f : Field) (hkeys : (c.map Prod.fst).Nodup) : f.update c =
    (fun id name label type required default? indexed => Field.mk id name label type required default? indexed)
      <$> .ok f.id
      <*> Check.string [.key "name"] ((c.get? "name").getD (.str f.name))
      <*> Check.string [.key "label"] ((c.get? "label").getD (.str f.label))
      <*> FieldType.check [.key "type"] ((c.get? "type").getD (.str f.type.name))
      <*> Check.bool [.key "required"] ((c.get? "required").getD (.bool f.required))
      <*> Check.string? [.key "default_value"] (cleared ((setDefault? c).getD (Json.ofWording? f.default?)))
      <*> Check.bool [.key "indexed"] ((c.get? "indexed").getD (.bool f.indexed)) := by
  obtain ⟨hid, hname, hlabel, htype, hrequired, hdefault, hindexed⟩ := f.parts_changedMembers hkeys
  rw [update, ofMembers, hid, hname, hlabel, htype, hrequired, hdefault, hindexed]

theorem update_eq_ok_iff (hkeys : (c.map Prod.fst).Nodup) : f.update c = .ok g ↔
    g.id = f.id ∧
    Check.string [.key "name"] ((c.get? "name").getD (.str f.name)) = .ok g.name ∧
    Check.string [.key "label"] ((c.get? "label").getD (.str f.label)) = .ok g.label ∧
    FieldType.check [.key "type"] ((c.get? "type").getD (.str f.type.name)) = .ok g.type ∧
    Check.bool [.key "required"] ((c.get? "required").getD (.bool f.required)) = .ok g.required ∧
    Check.string? [.key "default_value"] (cleared ((setDefault? c).getD (Json.ofWording? f.default?))) =
      .ok g.default? ∧
    Check.bool [.key "indexed"] ((c.get? "indexed").getD (.bool f.indexed)) = .ok g.indexed := by
  obtain ⟨hid, hname, hlabel, htype, hrequired, hdefault, hindexed⟩ := f.parts_changedMembers hkeys
  rw [update, ofMembers_eq_ok_iff, hid, hname, hlabel, htype, hrequired, hdefault, hindexed, Checked.ok.injEq, eq_comm]

/-! ## Two updates of a field -/

/-- **The later changes do not set the default value by its name alone** where the earlier ones set it by its key in the
data format.  So it is if both spell it alike, or if one of them does not set it. -/
def SpelledAlike (c c' : Json.Members) : Prop :=
  c.get? "defaultValue" = none ∨ c'.get? "default_value" = none ∨ c'.get? "defaultValue" ≠ none

theorem spelledAlike_self (c : Json.Members) : SpelledAlike c c := by
  by_cases h : c.get? "defaultValue" = none
  · exact .inl h
  · exact .inr (.inr h)

theorem get?_merge_changes (hkeys' : (c'.map Prod.fst).Nodup) (key : Wording) :
    Json.Members.get? (Entries.merge c c') key = (c'.get? key).or (c.get? key) :=
  Entries.get?_merge key c hkeys'

theorem setDefault?_merge (hkeys' : (c'.map Prod.fst).Nodup) (h : SpelledAlike c c') :
    setDefault? (Entries.merge c c') = (setDefault? c').or (setDefault? c) := by
  unfold SpelledAlike at h
  simp only [setDefault?, get?_merge_changes hkeys']
  cases hlater : c'.get? "defaultValue" with
  | some v => rfl
  | none =>
    cases hformat : c.get? "defaultValue" with
    | none => cases c'.get? "default_value" <;> rfl
    | some v =>
      have hname : c'.get? "default_value" = none := by simpa [hlater, hformat] using h
      rw [hname]
      rfl

/-- **After an update the next one is what both are together**, the later changes overriding the earlier ones. -/
theorem update_merge (hkeys : (c.map Prod.fst).Nodup) (hkeys' : (c'.map Prod.fst).Nodup) (halike : SpelledAlike c c')
    (h : f.update c = .ok g) : g.update c' = f.update (Entries.merge c c') := by
  obtain ⟨hid, hname, hlabel, htype, hrequired, hdefault, hindexed⟩ := (update_eq_ok_iff hkeys).1 h
  -- what the later changes leave alone was read, and is read again
  have hpart : ∀ {α : Type} (check : Json → Checked α) {new old : Json} {a : α} {later? earlier? : Option Json},
      check new = .ok a → check (earlier?.getD old) = .ok a →
        check (later?.getD new) = check ((later?.or earlier?).getD old) := by
    intro α check new old a later? earlier? hnew hold
    cases later? with
    | some v => rfl
    | none => exact hnew.trans hold.symm
  have hcleared : Check.string? [.key "default_value"] (cleared ((setDefault? c').getD (Json.ofWording? g.default?))) =
      Check.string? [.key "default_value"]
        (cleared (((setDefault? c').or (setDefault? c)).getD (Json.ofWording? f.default?))) :=
    hpart (fun v => Check.string? [.key "default_value"] (cleared v)) (string?_cleared hdefault _) hdefault
  rw [update_eq g hkeys', update_eq f (Entries.nodup_merge hkeys c'), hid, setDefault?_merge hkeys' halike, hcleared,
    get?_merge_changes hkeys', get?_merge_changes hkeys', get?_merge_changes hkeys', get?_merge_changes hkeys',
    get?_merge_changes hkeys', hpart (Check.string [.key "name"]) rfl hname,
    hpart (Check.string [.key "label"]) rfl hlabel,
    hpart (FieldType.check [.key "type"]) (FieldType.check_name _ _) htype,
    hpart (Check.bool [.key "required"]) rfl hrequired,
    hpart (Check.bool [.key "indexed"]) rfl hindexed]

end Field

/-! ## Two updates of a schema -/

namespace Operands

theorem check_eq (o : Operands) (c : Json.Members) : o.check c =
    match (c.map Prod.fst).find? (fun key => key.text?.any o.names.contains) with
    | some key => .error (.operandTaken o.operation key.shown)
    | none => .ok () := by
  have hentry : (fun key : Wording => key.text?.any o.names.contains) ∘ Prod.fst =
      fun e : Wording × Json => e.1.text?.any o.names.contains := rfl
  rw [check, List.find?_map, hentry]
  cases c.find? (fun e => e.1.text?.any o.names.contains) <;> rfl

theorem check_merge {o : Operands} {c : Json.Members} (h : o.check c = .ok ()) (c' : Json.Members) :
    o.check (Entries.merge c c') = o.check c' := by
  have hnone : (c.map Prod.fst).find? (fun key => key.text?.any o.names.contains) = none := by
    rw [check_eq] at h
    cases hfind : (c.map Prod.fst).find? (fun key => key.text?.any o.names.contains) with
    | none => rfl
    | some key =>
      rw [hfind] at h
      cases h
  rw [check_eq, check_eq, Entries.find?_keys_merge, hnone, Option.none_or]

end Operands

namespace Schema

variable {s t : Schema} {id : String} {c c' : Json.Members}

theorem updateFields_merge (hkeys : (c.map Prod.fst).Nodup) (hkeys' : (c'.map Prod.fst).Nodup)
    (halike : Field.SpelledAlike c c') : ∀ {l r : List Field}, updateFields id c l = .ok r →
      updateFields id c' r = updateFields id (Entries.merge c c') l
  | [], r, h => by cases h
  | f :: l, r, h => by
    unfold updateFields at h
    split at h
    · rename_i hid
      split at h
      · rename_i g hg
        obtain rfl := Except.ok.inj h
        have hid' : g.id = (id : Wording) := (Field.id_of_update hg).trans hid
        rw [updateFields, updateFields, if_pos hid, if_pos hid', Field.update_merge hkeys hkeys' halike hg]
      · cases h
    · rename_i hid
      obtain ⟨rest, hrest, rfl⟩ := Sequence.map_eq_ok_iff.1 h
      rw [updateFields, updateFields, if_neg hid, if_neg hid, updateFields_merge hkeys hkeys' halike hrest]

theorem updateField_eq (s : Schema) (id : String) (hcheck : Operands.ofUpdate.check c = .ok ()) :
    s.updateField id c = (updateFields id c s.fields).map (fun l => { s with fields := l }) := by
  rw [updateField, hcheck]
  cases updateFields id c s.fields <;> rfl

theorem updateField_merge (hkeys : (c.map Prod.fst).Nodup) (hkeys' : (c'.map Prod.fst).Nodup)
    (halike : Field.SpelledAlike c c') (h : s.updateField id c = .ok t) :
    t.updateField id c' = s.updateField id (Entries.merge c c') := by
  obtain ⟨u, hcheck, h⟩ := Sequence.bind_eq_ok_iff.1 h
  obtain ⟨r, hr, h⟩ := Sequence.bind_eq_ok_iff.1 h
  obtain rfl := Except.ok.inj h
  have hmerged := Operands.check_merge hcheck c'
  cases hlater : Operands.ofUpdate.check c' with
  | error e =>
    rw [updateField, updateField, hmerged, hlater]
    rfl
  | ok u =>
    rw [updateField_eq _ _ hlater, updateField_eq _ _ (hmerged.trans hlater), updateFields_merge hkeys hkeys' halike hr]

/-- **Successive updates of a field come to one.**  After an update has succeeded, the next one does with its outcome
what both do at once with the schema before them, the later changes overriding the earlier ones: it succeeds if they do,
with the same schema, and it is refused as they are.  An update that has succeeded changes nothing when it is
repeated. -/
theorem successive_updates_merge (hkeys : (c.map Prod.fst).Nodup) (h : s.updateField id c = .ok t) :
    (∀ c' : Json.Members, (c'.map Prod.fst).Nodup → Field.SpelledAlike c c' →
      t.updateField id c' = s.updateField id (Entries.merge c c')) ∧
    t.updateField id c = .ok t := by
  have hmerge : ∀ c' : Json.Members, (c'.map Prod.fst).Nodup → Field.SpelledAlike c c' →
      t.updateField id c' = s.updateField id (Entries.merge c c') := fun c' hkeys' halike =>
    updateField_merge hkeys hkeys' halike h
  refine ⟨hmerge, ?_⟩
  rw [hmerge c hkeys (Field.spelledAlike_self c), Entries.merge_self hkeys, h]

/-- Spelled otherwise, the key in the data format goes first among the merged changes, though it was set before. -/
example : ((titled "-").updateField "1"
    (Entries.merge [("defaultValue", .str "a")] [("default_value", .str "b")])).toOption.map
      (fun t => t.fields.map Field.default?) = some [some ("a" : Wording), none] := by decide +kernel

def renumber : Json.Members := [("type", .str "number"), ("required", .str "yes"), ("defaultValue", .str "7")]

def empty : Json.Members := [("defaultValue", .str ""), ("required", .int 0), ("label", .str "Count")]

def numbered (label : Wording) (required : Bool) (default? : Option Wording) : Schema :=
  { titled "-" with
    fields := [
      { id := "1", name := "title", label := label, type := .number, required := required, default? := default? },
      { id := "2", name := "stock", type := .number }] }

/-- **The title is made a number with a default value, which is then cleared**; both at once give the same, and what was
done is not done again. -/
theorem numbered_and_emptied :
    (titled "-").updateField "1" renumber = .ok (numbered "Title" true (some "7")) ∧
    (numbered "Title" true (some "7")).updateField "1" empty = .ok (numbered "Count" false none) ∧
    (titled "-").updateField "1" (Entries.merge renumber empty) = .ok (numbered "Count" false none) ∧
    (numbered "Title" true (some "7")).updateField "1" renumber = .ok (numbered "Title" true (some "7")) := by
  have hfirst : (titled "-").updateField "1" renumber = .ok (numbered "Title" true (some "7")) :=
    Sequence.toOption_eq_some_iff.1 (by decide +kernel)
  have hsecond : (numbered "Title" true (some "7")).updateField "1" empty = .ok (numbered "Count" false none) :=
    Sequence.toOption_eq_some_iff.1 (by decide +kernel)
  obtain ⟨hmerge, hagain⟩ := successive_updates_merge (by decide) hfirst
  exact ⟨hfirst, hsecond, (hmerge empty (by decide) (.inr (.inl rfl))).symm.trans hsecond, hagain⟩

end Schema
end Scaffold
