import Scaffold.Proofs.Schema.Ids
/-!
# Proofs.Schema.Exchange — edits that do not depend on their order

An edit is a change of one part of the schema (`Schema.apply_eq`).  Changes of different parts do not get in each
other's way, nor do two operations that are switched.  What happens at a field passes over all others (`Field.EditsAt`),
so edits of two fields can be exchanged as well, by induction on the list of fields.
-/
namespace Scaffold

/-! ## Changes that may be refused -/

namespace Sequence

variable {α β γ ε ε' : Type}

/-- **What there is after a change was tried**: what it makes, or what was there if it is refused. -/
def tried (f : α → Except ε α) (a : α) : α :=
  match f a with
  | .ok b => b
  | .error _ => a

/-- **The order of two changes does not matter**: both orders come to the same, and each change is refused as it would
be without the other. -/
structure Swaps (f g : α → Except ε α) (a : α) : Prop where
  same : tried g (tried f a) = tried f (tried g a)
  first : thrown? (f (tried g a)) = thrown? (f a)
  second : thrown? (g (tried f a)) = thrown? (g a)

/-- **A change within something larger**: it does there what it does by itself. -/
structure Within (w : α → β) (f : α → Except ε α) (F : β → Except ε β) (a : α) : Prop where
  same : tried F (w a) = w (tried f a)
  thrown : thrown? (F (w a)) = thrown? (f a)

variable {f g : α → Except ε α} {a : α}

theorem tried_of_ok {b : α} (h : f a = .ok b) : tried f a = b := by
  rw [tried, h]

theorem tried_of_error {e : ε} (h : f a = .error e) : tried f a = a := by
  rw [tried, h]

theorem within_of_map {w : α → β} {F : β → Except ε β} (h : F (w a) = (f a).map w) : Within w f F a := by
  refine ⟨?_, ?_⟩
  · unfold tried
    rw [h]
    cases f a <;> rfl
  · rw [h, thrown?_map]

theorem Swaps.symm (h : Swaps f g a) : Swaps g f a := ⟨h.same.symm, h.second, h.first⟩

theorem swaps_of_refused {e : ε} (hf : ∀ b, f b = .error e) : Swaps f g a := by
  have hnone : ∀ b, tried f b = b := fun b => tried_of_error (hf b)
  refine ⟨?_, ?_, ?_⟩
  · rw [hnone, hnone]
  · rw [hf, hf]
  · rw [hnone]

theorem swaps_of_error {e e' : ε} (hf : f a = .error e) (hg : g a = .error e') : Swaps f g a := by
  have hf' := tried_of_error hf
  have hg' := tried_of_error hg
  refine ⟨?_, ?_, ?_⟩
  · rw [hf', hg', hf']
  · rw [hg']
  · rw [hf']

theorem Swaps.within {F G : β → Except ε β} {w : α → β} (h : Swaps f g a) (hF : ∀ b, Within w f F b)
    (hG : ∀ b, Within w g G b) : Swaps F G (w a) := by
  refine ⟨?_, ?_, ?_⟩
  · rw [(hF _).same, (hG _).same, (hG _).same, (hF _).same, h.same]
  · rw [(hG _).same, (hF _).thrown, (hF _).thrown, h.first]
  · rw [(hF _).same, (hG _).thrown, (hG _).thrown, h.second]

theorem swaps_of_apart {g : β → Except ε β} {F G : γ → Except ε γ} {w : α → β → γ}
    (hF : ∀ a b, Within (fun x => w x b) f F a) (hG : ∀ a b, Within (fun y => w a y) g G b) (a : α) (b : β) :
    Swaps F G (w a b) := by
  have hFsame : ∀ a b, tried F (w a b) = w (tried f a) b := fun a b => (hF a b).same
  have hGsame : ∀ a b, tried G (w a b) = w a (tried g b) := fun a b => (hG a b).same
  have hFthrown : ∀ a b, thrown? (F (w a b)) = thrown? (f a) := fun a b => (hF a b).thrown
  have hGthrown : ∀ a b, thrown? (G (w a b)) = thrown? (g b) := fun a b => (hG a b).thrown
  refine ⟨?_, ?_, ?_⟩
  · rw [hFsame, hGsame, hGsame, hFsame]
  · rw [hGsame, hFthrown, hFthrown]
  · rw [hFsame, hGthrown, hGthrown]

theorem Swaps.mapError (h : Swaps f g a) (k : ε → ε') :
    Swaps (fun b => (f b).mapError k) (fun b => (g b).mapError k) a := by
  have htried : ∀ (f : α → Except ε α) b, tried (fun b => (f b).mapError k) b = tried f b := by
    intro f b
    simp only [tried]
    cases f b <;> rfl
  have hthrown : ∀ x : Except ε α, thrown? (x.mapError k) = (thrown? x).map k := by
    intro x
    cases x <;> rfl
  refine ⟨?_, ?_, ?_⟩
  · rw [htried, htried, htried, htried, h.same]
  · rw [htried, hthrown, hthrown, h.first]
  · rw [htried, hthrown, hthrown, h.second]

end Sequence

open Sequence (Swaps Within tried thrown? within_of_map)

/-! ## Edits of fields -/

namespace Field

def without (id : Wording) (l : List Field) : List Field := l.filter (fun f => f.id ≠ id)

/-- What becomes of the fields from one with the id on: it is replaced, or all with the id go. -/
inductive Settled (id : Wording) : (List Field → List Field) → Prop where
  | replaced (g : Field) : g.id = id → Settled id (fun l => g :: l)
  | removed : Settled id (without id)

/-- **What is done with the fields is done at one id**: other fields are passed over, and what happens at a field with
the id does not depend on those behind it. -/
structure EditsAt (id : Wording) (F : List Field → Except EditError (List Field)) : Prop where
  nil : tried F [] = []
  skip : ∀ f l, f.id ≠ id → Within (f :: ·) F F l
  hit : ∀ f, f.id = id → ∃ k refusal?, Settled id k ∧ ∀ l, tried F (f :: l) = k l ∧ thrown? (F (f :: l)) = refusal?

variable {id id' : Wording} {F G : List Field → Except EditError (List Field)} {k : List Field → List Field}

theorem without_cons_of_eq {f : Field} (h : f.id = id) (l : List Field) : without id (f :: l) = without id l :=
  List.filter_cons_of_neg (by simpa using h)

theorem without_cons_of_ne {f : Field} (h : f.id ≠ id) (l : List Field) : without id (f :: l) = f :: without id l :=
  List.filter_cons_of_pos (by simpa using h)

theorem Settled.without (h : Settled id k) (hne : id ≠ id') (l : List Field) :
    k (Field.without id' l) = Field.without id' (k l) := by
  cases h with
  | replaced g hg => rw [without_cons_of_ne (by rw [hg]; exact hne)]
  | removed => exact List.filter_comm _ _ l

theorem EditsAt.without (h : EditsAt id F) (hne : id ≠ id') (l : List Field) : Within (Field.without id') F F l := by
  induction l with
  | nil => exact ⟨by rw [h.nil]; exact h.nil, rfl⟩
  | cons f l ih =>
    by_cases hf : f.id = id
    · obtain ⟨k, refusal?, hk, hhit⟩ := h.hit f hf
      have hcons : Field.without id' (f :: l) = f :: Field.without id' l := without_cons_of_ne (by rw [hf]; exact hne) l
      refine ⟨?_, ?_⟩
      · rw [hcons, (hhit _).1, (hhit _).1, hk.without hne]
      · rw [hcons, (hhit _).2, (hhit _).2]
    · have hskip := fun l => h.skip f l hf
      by_cases hf' : f.id = id'
      · refine ⟨?_, ?_⟩
        · rw [without_cons_of_eq hf', ih.same, (hskip l).same, without_cons_of_eq hf']
        · rw [without_cons_of_eq hf', ih.thrown, (hskip l).thrown]
      · refine ⟨?_, ?_⟩
        · rw [without_cons_of_ne hf', (hskip _).same, ih.same, (hskip l).same, without_cons_of_ne hf']
        · rw [without_cons_of_ne hf', (hskip _).thrown, ih.thrown, (hskip l).thrown]

theorem EditsAt.settled (h : EditsAt id F) (hk : Settled id' k) (hne : id ≠ id') (l : List Field) : Within k F F l := by
  cases hk with
  | replaced g hg => exact h.skip g l (by rw [hg]; exact Ne.symm hne)
  | removed => exact h.without hne l

theorem EditsAt.swaps_cons (hF : EditsAt id F) (hG : EditsAt id' G) (hne : id ≠ id') {f : Field} (hf : f.id = id)
    (l : List Field) : Swaps F G (f :: l) := by
  obtain ⟨k, refusal?, hk, hhit⟩ := hF.hit f hf
  have hskip := hG.skip f l (by rw [hf]; exact hne)
  have hsettled := hG.settled hk (Ne.symm hne) l
  refine ⟨?_, ?_, ?_⟩
  · rw [(hhit l).1, hsettled.same, hskip.same, (hhit _).1]
  · rw [hskip.same, (hhit _).2, (hhit _).2]
  · rw [(hhit l).1, hsettled.thrown, hskip.thrown]

theorem EditsAt.swaps (hF : EditsAt id F) (hG : EditsAt id' G) (hne : id ≠ id') (l : List Field) : Swaps F G l := by
  induction l with
  | nil =>
    refine ⟨?_, ?_, ?_⟩
    · rw [hF.nil, hG.nil, hF.nil]
    · rw [hG.nil]
    · rw [hF.nil]
  | cons f l ih =>
    by_cases hf : f.id = id
    · exact hF.swaps_cons hG hne hf l
    · by_cases hf' : f.id = id'
      · exact (hG.swaps_cons hF (Ne.symm hne) hf' l).symm
      · exact ih.within (fun r => hF.skip f r hf) (fun r => hG.skip f r hf')

theorem editsAt_of_refused {e : EditError} (h : ∀ l, F l = .error e) : EditsAt id F := by
  have hnone : ∀ l, tried F l = l := fun l => Sequence.tried_of_error (h l)
  refine ⟨hnone [], fun f l _ => ⟨?_, ?_⟩, fun f hf => ⟨(f :: ·), some e, .replaced f hf, fun l => ⟨hnone _, ?_⟩⟩⟩
  · rw [hnone, hnone]
  · rw [h, h]
  · rw [h]
    rfl

theorem editsAt_updateFields (id : String) (changes : Json.Members) : EditsAt id (Schema.updateFields id changes) where
  nil := rfl
  skip f l hf := within_of_map (by rw [Schema.updateFields, if_neg hf])
  hit f hf := by
    cases hupdate : f.update changes with
    | ok g =>
      have hok : ∀ l, Schema.updateFields id changes (f :: l) = .ok (g :: l) := fun l => by
        rw [Schema.updateFields, if_pos hf, hupdate]
      refine ⟨(g :: ·), none, .replaced g ((id_of_update hupdate).trans hf),
        fun l => ⟨Sequence.tried_of_ok (hok l), ?_⟩⟩
      rw [hok]
      rfl
    | refused issues =>
      have herror : ∀ l, Schema.updateFields id changes (f :: l) = .error (.invalidField issues) := fun l => by
        rw [Schema.updateFields, if_pos hf, hupdate]
      refine ⟨(f :: ·), some (.invalidField issues), .replaced f hf, fun l => ⟨Sequence.tried_of_error (herror l), ?_⟩⟩
      rw [herror]
      rfl

def remove (id : String) (l : List Field) : Except EditError (List Field) :=
  match l.find? (fun f => f.id = (id : Wording)) with
  | none => .error (.fieldNotFound id)
  | some _ => .ok (without id l)

theorem editsAt_remove (id : String) : EditsAt id (remove id) where
  nil := rfl
  skip f l hf := within_of_map (by
    unfold remove
    rw [List.find?_cons_of_neg (by simpa using hf), without_cons_of_ne hf]
    cases l.find? (fun f => f.id = (id : Wording)) <;> rfl)
  hit f hf := by
    have hok : ∀ l, remove id (f :: l) = .ok (without id l) := fun l => by
      rw [remove, List.find?_cons_of_pos (by simpa using hf), without_cons_of_eq hf]
    refine ⟨without id, none, .removed, fun l => ⟨Sequence.tried_of_ok (hok l), ?_⟩⟩
    rw [hok]
    rfl

end Field

/-! ## Edits of a schema -/

namespace Schema

inductive Slot where
  | entityName
  | fields
  | operations
  | paginate
deriving DecidableEq

def Slot.Value : Slot → Type
  | .entityName => Wording
  | .fields => List Field
  | .operations => Operations
  | .paginate => Bool

def get (s : Schema) : (p : Slot) → p.Value
  | .entityName => s.entityName
  | .fields => s.fields
  | .operations => s.operations
  | .paginate => s.paginate

def put (s : Schema) : (p : Slot) → p.Value → Schema
  | .entityName, v => { s with entityName := v }
  | .fields, v => { s with fields := v }
  | .operations, v => { s with operations := v }
  | .paginate, v => { s with paginate := v }

theorem put_get (s : Schema) (p : Slot) : s.put p (s.get p) = s := by
  cases p <;> rfl

theorem get_put (s : Schema) (p : Slot) (v : p.Value) : (s.put p v).get p = v := by
  cases p <;> rfl

theorem put_put (s : Schema) (p : Slot) (v v' : p.Value) : (s.put p v).put p v' = s.put p v' := by
  cases p <;> rfl

theorem get_put_of_ne {p p' : Slot} (h : p ≠ p') (s : Schema) (v : p.Value) : (s.put p v).get p' = s.get p' := by
  cases p <;> cases p' <;> first | rfl | exact absurd rfl h

theorem put_comm {p p' : Slot} (h : p ≠ p') (s : Schema) (v : p.Value) (v' : p'.Value) :
    (s.put p v).put p' v' = (s.put p' v').put p v := by
  cases p <;> cases p' <;> first | rfl | exact absurd rfl h

end Schema

namespace Edit

open Schema (Slot)

def slot : Edit → Slot
  | .setEntityName _ => .entityName
  | .updateField .. | .addField | .removeField _ => .fields
  | .toggleOperation _ => .operations
  | .setPagination _ => .paginate

def change (supply : Supply) : (e : Edit) → e.slot.Value → Except EditError e.slot.Value
  | .setEntityName name, _ => .ok name
  | .updateField id changes, (l : List Field) => do
    Operands.ofUpdate.check changes
    Schema.updateFields id changes l
  | .addField, (l : List Field) => .ok (l ++ [Field.fresh supply.draw.1])
  | .removeField id, (l : List Field) => Field.remove id l
  | .toggleOperation v, (ops : Operations) =>
    match Operation.ofJson? v with
    | some op => .ok (ops.toggle op)
    | none => .error (.notOperation v)
  | .setPagination enabled, _ => .ok enabled

def after (supply : Supply) : Edit → Supply
  | .addField => supply.draw.2
  | _ => supply

end Edit

/-- **An edit changes its part of the schema, and nothing else.** -/
theorem Schema.apply_eq (s : Schema) (supply : Supply) (e : Edit) :
    s.apply supply e = (e.change supply (s.get e.slot)).map (fun v => (s.put e.slot v, e.after supply)) := by
  cases e with
  | setEntityName name => rfl
  | setPagination enabled => rfl
  | addField => rfl
  | updateField id changes =>
    simp only [apply, updateField, Edit.change, get, put, Edit.slot]
    cases Operands.ofUpdate.check changes with
    | error e => rfl
    | ok u => cases updateFields id changes s.fields <;> rfl
  | removeField id =>
    simp only [apply, removeField, Edit.change, get, put, Edit.slot, field?, Field.remove]
    cases s.fields.find? (fun f => f.id = (id : Wording)) <;> rfl
  | toggleOperation v =>
    simp only [apply, toggleOperation, Edit.change, get, put, Edit.slot]
    cases Operation.ofJson? v <;> rfl

namespace Edit

open Schema (Slot)

/-- **What an edit is at**; adding a field is at nothing that is there. -/
inductive Target where
  | entityName
  | field (id : String)
  | operations
  | paginate
deriving DecidableEq

def target? : Edit → Option Target
  | .setEntityName _ => some .entityName
  | .updateField id _ | .removeField id => some (.field id)
  | .toggleOperation _ => some .operations
  | .setPagination _ => some .paginate
  | .addField => none

/-- **Independent edits**: they are at different things, or both switch operations. -/
def Independent (e e' : Edit) : Prop :=
  ∃ t t', e.target? = some t ∧ e'.target? = some t' ∧ (t = t' → t = .operations)

def Target.slot : Target → Slot
  | .entityName => .entityName
  | .field _ => .fields
  | .operations => .operations
  | .paginate => .paginate

theorem slot_of_target? {e : Edit} {t : Target} (h : e.target? = some t) : e.slot = t.slot := by
  cases e with
  | addField => cases h
  | _ =>
    obtain rfl := Option.some.inj h
    rfl

theorem exists_toggle_of_target? {e : Edit} (h : e.target? = some .operations) : ∃ v, e = .toggleOperation v := by
  cases e with
  | toggleOperation v => exact ⟨v, rfl⟩
  | _ => cases h

theorem after_of_target? {e : Edit} {t : Target} (h : e.target? = some t) (supply : Supply) :
    e.after supply = supply := by
  cases e with
  | addField => cases h
  | _ => rfl

end Edit

namespace Operations

theorem toggle_comm (ops : Operations) (a b : Operation) : (ops.toggle a).toggle b = (ops.toggle b).toggle a := by
  cases a <;> cases b <;> rfl

end Operations

namespace Schema

open Edit (Target)

theorem exists_editsAt {e : Edit} {id : String} (h : e.target? = some (.field id)) :
    ∃ F, Field.EditsAt id F ∧ ∀ (s : Schema) (supply : Supply),
      s.apply supply e = (F s.fields).map (fun l => ({ s with fields := l }, supply)) := by
  cases e with
  | updateField id' changes =>
    obtain rfl : id' = id := by simpa [Edit.target?] using h
    cases hcheck : Operands.ofUpdate.check changes with
    | error e =>
      refine ⟨fun _ => .error e, Field.editsAt_of_refused (fun _ => rfl), fun s supply => ?_⟩
      simp only [apply, updateField, hcheck]
      rfl
    | ok u =>
      refine ⟨updateFields id' changes, Field.editsAt_updateFields id' changes, fun s supply => ?_⟩
      simp only [apply_eq, Edit.change, hcheck]
      rfl
  | removeField id' =>
    obtain rfl : id' = id := by simpa [Edit.target?] using h
    exact ⟨Field.remove id', Field.editsAt_remove id', fun s supply => apply_eq s supply (.removeField id')⟩
  | _ => cases h

def edited (e : Edit) (p : Schema × Supply) : Except EditError (Schema × Supply) := p.1.apply p.2 e

variable {e e' : Edit}

theorem swaps_of_slots {t t' : Target} (ht : e.target? = some t) (ht' : e'.target? = some t') (hslot : e.slot ≠ e'.slot)
    (s : Schema) (supply : Supply) : Swaps (edited e) (edited e') (s, supply) := by
  let w : e.slot.Value → e'.slot.Value → Schema × Supply := fun v v' => ((s.put e.slot v).put e'.slot v', supply)
  have hfirst : ∀ v v', Within (fun x => w x v') (e.change supply) (edited e) v := by
    intro v v'
    refine within_of_map ?_
    have hget : ((s.put e.slot v).put e'.slot v').get e.slot = v := by
      rw [get_put_of_ne (Ne.symm hslot), get_put]
    have hput : ∀ x, ((s.put e.slot v).put e'.slot v').put e.slot x = (s.put e.slot x).put e'.slot v' := fun x => by
      rw [put_comm (Ne.symm hslot), put_put]
    simp only [edited, w, apply_eq, hget, hput, Edit.after_of_target? ht]
  have hsecond : ∀ v v', Within (fun y => w v y) (e'.change supply) (edited e') v' := by
    intro v v'
    refine within_of_map ?_
    simp only [edited, w, apply_eq, get_put, put_put, Edit.after_of_target? ht']
  have hw : w (s.get e.slot) (s.get e'.slot) = (s, supply) := by
    simp only [w, put_get]
  rw [← hw]
  exact Sequence.swaps_of_apart hfirst hsecond _ _

theorem swaps_toggles (v v' : Json) (s : Schema) (supply : Supply) :
    Swaps (edited (.toggleOperation v)) (edited (.toggleOperation v')) (s, supply) := by
  have happly : ∀ (v : Json) (p : Schema × Supply), edited (.toggleOperation v) p =
      match Operation.ofJson? v with
      | some op => .ok ({ p.1 with operations := p.1.operations.toggle op }, p.2)
      | none => .error (.notOperation v) := by
    intro v p
    simp only [edited, apply, toggleOperation]
    cases Operation.ofJson? v <;> rfl
  cases hop : Operation.ofJson? v with
  | none => exact Sequence.swaps_of_refused (fun p => by rw [happly, hop])
  | some op =>
    cases hop' : Operation.ofJson? v' with
    | none => exact (Sequence.swaps_of_refused (fun p => by rw [happly, hop'])).symm
    | some op' =>
      have hok : ∀ p : Schema × Supply, edited (.toggleOperation v) p =
          .ok ({ p.1 with operations := p.1.operations.toggle op }, p.2) := fun p => by rw [happly, hop]
      have hok' : ∀ p : Schema × Supply, edited (.toggleOperation v') p =
          .ok ({ p.1 with operations := p.1.operations.toggle op' }, p.2) := fun p => by rw [happly, hop']
      refine ⟨?_, ?_, ?_⟩
      · simp only [tried, hok, hok', Operations.toggle_comm _ op op']
      · simp only [tried, hok, hok', thrown?]
      · simp only [tried, hok, hok', thrown?]

theorem swaps_of_fields {id id' : String} (ht : e.target? = some (.field id)) (ht' : e'.target? = some (.field id'))
    (hne : id ≠ id') (s : Schema) (supply : Supply) : Swaps (edited e) (edited e') (s, supply) := by
  have hwordings : (id : Wording) ≠ id' := fun heq => hne (by simpa using congrArg Wording.shown heq)
  obtain ⟨F, hF, happly⟩ := exists_editsAt ht
  obtain ⟨G, hG, happly'⟩ := exists_editsAt ht'
  have hfirst : ∀ l, Within (fun l => ({ s with fields := l }, supply)) F (edited e) l := fun l =>
    within_of_map (happly { s with fields := l } supply)
  have hsecond : ∀ l, Within (fun l => ({ s with fields := l }, supply)) G (edited e') l := fun l =>
    within_of_map (happly' { s with fields := l } supply)
  exact (hF.swaps hG hwordings s.fields).within hfirst hsecond

/-- **Independent edits of a schema can be exchanged.** -/
theorem swaps_of_independent (h : e.Independent e') (s : Schema) (supply : Supply) :
    Swaps (edited e) (edited e') (s, supply) := by
  obtain ⟨t, t', ht, ht', hsame⟩ := h
  by_cases hslot : e.slot = e'.slot
  · rw [Edit.slot_of_target? ht, Edit.slot_of_target? ht'] at hslot
    cases t with
    | field id =>
      cases t' with
      | field id' =>
        exact swaps_of_fields ht ht' (fun heq => by cases hsame (by rw [heq])) s supply
      | _ => cases hslot
    | operations =>
      cases t' with
      | operations =>
        obtain ⟨v, rfl⟩ := Edit.exists_toggle_of_target? ht
        obtain ⟨v', rfl⟩ := Edit.exists_toggle_of_target? ht'
        exact swaps_toggles v v' s supply
      | _ => cases hslot
    | entityName =>
      cases t' with
      | entityName => cases hsame rfl
      | _ => cases hslot
    | paginate =>
      cases t' with
      | paginate => cases hsame rfl
      | _ => cases hslot
  · exact swaps_of_slots ht ht' hslot s supply

end Schema
end Scaffold
