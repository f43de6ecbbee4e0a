import Scaffold.Proofs.Artifact.ComponentTexts
/-!
# Proofs.Artifact.Rewording — components that differ in their texts

Schemas that differ in labels and in defaults that are entered as texts have components that differ inside of literals
alone: both have as many lines, woven from the same pieces, and what their literals hold are captions and defaults of
the same field (`Schema.texts_in_literals`).
-/
namespace Scaffold

open Naming Source Text

namespace Sequence

theorem forall₂_eraseP {α : Type} {R : α → α → Prop} {p : α → Bool} (hR : ∀ a b, R a b → p a = p b) :
    ∀ {l r : List α}, List.Forall₂ R l r → List.Forall₂ R (l.eraseP p) (r.eraseP p)
  | _, _, .nil => .nil
  | a :: l, b :: r, .cons h hs => by
    have hp := hR a b h
    cases ha : p a with
    | true => rwa [List.eraseP_cons_of_pos ha, List.eraseP_cons_of_pos (hp ▸ ha)]
    | false =>
      have hb : ¬ p b = true := by simp [← hp, ha]
      rw [List.eraseP_cons_of_neg (by simp [ha]), List.eraseP_cons_of_neg hb]
      exact .cons h (forall₂_eraseP hR hs)

end Sequence

namespace Source

/-- **Two lines that are the same outside of literals**: they are woven from the same pieces, each read to its end, and
what their literals hold is related. -/
inductive SameOutside (R : List Sign → List Sign → Prop) : List Char → List Char → Prop where
  | same (l : List Char) : SameOutside R l l
  | woven {p : List Char} {rest rest' : List (List Sign × List Char)} (hp : Whole p)
    (h : List.Forall₂ (fun r r' => R r.1 r'.1 ∧ r.2 = r'.2 ∧ Whole r.2) rest rest') :
    SameOutside R (weave p rest) (weave p rest')

abbrev SameLines (R : List Sign → List Sign → Prop) : List String → List String → Prop :=
  List.Forall₂ (fun l l' => SameOutside R l.toList l'.toList)

namespace SameLines

variable {R : List Sign → List Sign → Prop}

theorem refl (lines : List String) : SameLines R lines lines := List.forall₂_same.2 (fun l _ => .same l.toList)

theorem append {a a' b b' : List String} (ha : SameLines R a a') (hb : SameLines R b b') :
    SameLines R (a ++ b) (a' ++ b') := List.rel_append ha hb

theorem only {lines lines' : List String} (b : Bool) (h : SameLines R lines lines') :
    SameLines R (Component.only b lines) (Component.only b lines') := by
  cases b
  · exact .nil
  · exact h

end SameLines

end Source

/-! ## Other texts -/

/-- **Two fields that differ at most in their texts**: in the label, and in a default that is entered as a text. -/
structure Field.Reworded (f g : Field) : Prop where
  name : f.name = g.name
  type : f.type = g.type
  required : f.required = g.required
  default? : f.type = .boolean → f.default? = g.default?

structure Schema.Reworded (s t : Schema) : Prop where
  entityName : s.entityName = t.entityName
  operations : s.operations = t.operations
  fields : List.Forall₂ Field.Reworded s.fields t.fields

/-- **What stands in the same place in the components of two schemas**: the same, or the captions of two fields, or what
is entered for them. -/
inductive Schema.Counterpart (s t : Schema) : List Sign → List Sign → Prop where
  | same (w : List Sign) : Counterpart s t w w
  | caption {f g : Field} (h : (f, g) ∈ s.fields.zip t.fields) : Counterpart s t f.caption.signs g.caption.signs
  | entered {f g : Field} (h : (f, g) ∈ s.fields.zip t.fields) : Counterpart s t f.entered.signs g.entered.signs

namespace Field

open Component

variable {R : List Sign → List Sign → Prop} {f g : Field}

theorem Reworded.sameOutside_listingLine (h : f.Reworded g) (hsame : ∀ w, R w w)
    (hcaption : R f.caption.signs g.caption.signs) : SameOutside R f.listingLine.toList g.listingLine.toList := by
  have hend : f.listingEnd = g.listingEnd := by rw [listingEnd, listingEnd, h.type]
  rw [listingLine_eq, listingLine_eq, h.name, hend]
  have hlabel : Whole ", label: ".toList := whole_of_mem_pieces (by simp [pieces])
  exact .woven (whole_of_mem_pieces (by simp [pieces])) (.cons ⟨hsame _, rfl, hlabel⟩
    (.cons ⟨hcaption, rfl, whole_of_mem_pieces g.listingEnd_mem_pieces⟩ .nil))

theorem Reworded.sameLines_widgetLines (h : f.Reworded g) (hcaption : R f.caption.signs g.caption.signs) :
    SameLines R f.widgetLines g.widgetLines := by
  have hcontrol : f.controlLine = g.controlLine := by
    rw [← String.toList_inj, controlLine_eq, controlLine_eq, h.name, h.type, h.required]
  refine .cons ?_ (.cons (hcontrol ▸ .same _) (.cons (.same _) .nil))
  have hback : Whole "\x7d".toList := by decide
  rw [labelLine_eq, labelLine_eq]
  exact .woven (whole_of_mem_pieces (by simp [pieces])) (.cons ⟨hcaption, rfl, hback⟩ .nil)

theorem Reworded.exists_formEntry (h : f.Reworded g) (hsame : ∀ w, R w w) (hentered : R f.entered.signs g.entered.signs)
    {line : String} (hline : f.formEntry = .ok line) :
    ∃ line', g.formEntry = .ok line' ∧ SameOutside R line.toList line'.toList := by
  by_cases htype : f.type = .boolean
  · have hvalue : f.initialValue = g.initialValue := by
      simp only [initialValue, coerced, h.type, h.default? htype]
    refine ⟨line, ?_, .same _⟩
    rw [← hline, formEntry, formEntry, hvalue, h.name]
  · have htype' : g.type ≠ .boolean := h.type ▸ htype
    obtain rfl := Except.ok.inj ((formEntry_of_ne_boolean htype).symm.trans hline)
    refine ⟨_, formEntry_of_ne_boolean htype', ?_⟩
    have hcolon : Whole ": ".toList := by decide
    have hcomma : Whole ",".toList := by decide
    rw [entryLine_eq, entryLine_eq, h.name]
    exact .woven (by decide) (.cons ⟨hsame _, rfl, hcolon⟩ (.cons ⟨hentered, rfl, hcomma⟩ .nil))

end Field

namespace Schema

open Component

variable {s t : Schema}

theorem Reworded.forall₂_fields (h : s.Reworded t) :
    List.Forall₂ (fun f g => f.Reworded g ∧ (f, g) ∈ s.fields.zip t.fields) s.fields t.fields := by
  obtain ⟨hlength, hzip⟩ := List.forall₂_iff_zip.1 h.fields
  exact List.forall₂_iff_zip.2 ⟨hlength, fun hmem => ⟨hzip hmem, hmem⟩⟩

theorem Reworded.forall₂_dataFields (h : s.Reworded t) :
    List.Forall₂ (fun f g => f.Reworded g ∧ (f, g) ∈ s.fields.zip t.fields) s.dataFields t.dataFields :=
  Sequence.forall₂_eraseP (fun f g hfg => by rw [Field.namesIdentity, Field.namesIdentity, hfg.1.name]) h.forall₂_fields

theorem Reworded.exists_formEntries (h : s.Reworded t) {entries : List String}
    (hentries : s.formEntries = .ok entries) :
    ∃ entries', t.formEntries = .ok entries' ∧ SameLines (s.Counterpart t) entries entries' := by
  have hall : ∀ {fs gs : List Field} {lines : List String},
      List.Forall₂ (fun f g => f.Reworded g ∧ (f, g) ∈ s.fields.zip t.fields) fs gs →
      List.Forall₂ (fun f line => f.formEntry = .ok line) fs lines → ∃ lines',
        List.Forall₂ (fun g line => g.formEntry = .ok line) gs lines' ∧ SameLines (s.Counterpart t) lines lines' := by
    intro fs gs lines hfields
    induction hfields generalizing lines with
    | nil =>
      rintro ⟨⟩
      exact ⟨[], .nil, .nil⟩
    | cons hfg _ ih =>
      rintro (_ | ⟨hline, hlines⟩)
      obtain ⟨line', hline', hsame⟩ := hfg.1.exists_formEntry (R := s.Counterpart t) .same (.entered hfg.2) hline
      obtain ⟨lines', hlines', hall⟩ := ih hlines
      exact ⟨line' :: lines', .cons hline' hlines', .cons hsame hall⟩
  unfold formEntries at hentries ⊢
  rw [← h.operations]
  split at hentries
  · rename_i hform
    obtain ⟨entries', hentries', hsame⟩ := hall h.forall₂_dataFields ((Sequence.mapM_eq_ok_iff _ _ _).1 hentries)
    exact ⟨entries', by rw [if_pos hform, Sequence.mapM_eq_ok_iff]; exact hentries', hsame⟩
  · rename_i hform
    obtain rfl := Except.ok.inj hentries
    exact ⟨[], if_neg hform, .nil⟩

theorem Reworded.numericNames_eq (h : s.Reworded t) : s.numericNames = t.numericNames := by
  have hall : ∀ {fs gs : List Field}, List.Forall₂ Field.Reworded fs gs →
      (fs.filter (fun f => f.type = .number)).map (fun f => quoted f.name) =
        (gs.filter (fun f => f.type = .number)).map (fun f => quoted f.name) := by
    intro fs gs hfields
    induction hfields with
    | nil => rfl
    | cons hfg _ ih => simp only [List.filter_cons, hfg.type, apply_ite (List.map _), List.map_cons, hfg.name, ih]
  exact hall (h.forall₂_dataFields.imp (fun _ _ hfg => hfg.1))

/-- **The lines of two components whose schemas differ in texts** are the same outside of literals. -/
theorem Reworded.sameLines_componentLines (h : s.Reworded t) {entries entries' : List String}
    (hentries : SameLines (s.Counterpart t) entries entries') :
    SameLines (s.Counterpart t) (s.componentLines entries) (t.componentLines entries') := by
  have hcolumns : SameLines (s.Counterpart t) (s.fields.map Field.listingLine) (t.fields.map Field.listingLine) := by
    rw [SameLines, List.forall₂_map_left_iff, List.forall₂_map_right_iff]
    exact h.forall₂_fields.imp (fun _ _ hfg => hfg.1.sameOutside_listingLine .same (.caption hfg.2))
  have hcontrols : SameLines (s.Counterpart t) (s.dataFields.flatMap Field.widgetLines)
      (t.dataFields.flatMap Field.widgetLines) :=
    List.rel_flatMap h.forall₂_dataFields (fun _ _ hfg => hfg.1.sameLines_widgetLines (.caption hfg.2))
  have hform : SameLines (s.Counterpart t) (formLines t.operations (s.dataFields.flatMap Field.widgetLines))
      (formLines t.operations (t.dataFields.flatMap Field.widgetLines)) :=
    ((((SameLines.refl _).append hcontrols).append (.refl _)).append (.refl _)).append (.refl _)
  have hclass : s.className = t.className := by rw [className, className, h.entityName]
  have hsegment : s.pathSegment = t.pathSegment := by rw [pathSegment, pathSegment, h.entityName]
  unfold componentLines
  rw [hclass, hsegment, h.operations, h.numericNames_eq]
  -- between the empty form and the controls nothing depends on the texts
  refine (SameLines.append ?_ (hform.only _)).append (.refl _)
  iterate 9 refine SameLines.append ?_ (.refl _)
  exact (((SameLines.refl _).append hcolumns).append (.refl _)).append
    (((((SameLines.refl _).append hentries).append (.refl _)).append (.refl _)).only _)

/-- **Texts stay in their places.**  There is a component exactly if, with a form, the default of every truth value is
accepted.  It shows the names, captions and defaults of the fields in literals, in lines whose other tokens are fixed.
A schema that differs only in labels and in defaults that are entered as texts has a component too, with as many lines,
which are the same outside of the literals of captions and defaults. -/
theorem texts_in_literals (hentity : s.entityName.In identifiers) :
    ((∃ text, s.component = .ok text) ↔
      (s.operations.hasForm = true → ∀ f ∈ s.dataFields, f.type = .boolean → ∃ v, f.coerced = .ok v)) ∧
    ∀ text, s.component = .ok text → s.Shows text ∧ ∀ t, s.Reworded t → ∃ text', t.component = .ok text' ∧
      List.Forall₂ (SameOutside (s.Counterpart t)) (textLines text) (textLines text') := by
  refine ⟨s.exists_component_eq_ok_iff_flags, fun text htext => ⟨shows_of_component hentity htext, fun t ht => ?_⟩⟩
  obtain ⟨entries, hentries, -, hlines⟩ := component_read_as_lines hentity htext
  obtain ⟨entries', hentries', hsame⟩ := ht.exists_formEntries hentries
  have hother : t.component = .ok _ := congrArg (Except.map _) hentries'
  obtain ⟨entries₂, hentries₂, -, hlines'⟩ := component_read_as_lines (ht.entityName ▸ hentity) hother
  obtain rfl := Except.ok.inj (hentries'.symm.trans hentries₂)
  refine ⟨_, hother, ?_⟩
  rw [hlines, hlines']
  refine List.rel_append ?_ (.cons (.same []) .nil)
  rw [List.forall₂_map_left_iff, List.forall₂_map_right_iff]
  exact ht.sameLines_componentLines hsame

def memos (label default : Wording) : Schema :=
  { entityName := "Memo",
    fields := [{ id := "1", name := "\"\\\n</label>", label := label, default? := some default },
      { id := "2", name := "done", type := .boolean, default? := some ("yes" : Wording) }] }

/-- **Other texts leave the component of memos as it is**: it is ASCII, with two entries in the empty form, and has as
many lines under a label and with a default that close quotes and lines too. -/
theorem memos_in_literals : ((memos "" "").entityName.In identifiers ∧ (memos "" "").operations.hasForm = true ∧
    (memos "" "").Reworded (memos "a\u2028b" "\"];\n😀")) ∧ ∃ text text', (memos "" "").component = .ok text ∧
      (memos "a\u2028b" "\"];\n😀").component = .ok text' ∧ (∀ c ∈ text.toList, c.toNat < 128) ∧
      (emptyForm text).length = 2 ∧ (textLines text).length = (textLines text').length := by
  have hentity : (memos "" "").entityName.In identifiers := Wording.ofText_in_identifiers "Memo" (by decide)
  have hform : (memos "" "").operations.hasForm = true := rfl
  have hreworded : (memos "" "").Reworded (memos "a\u2028b" "\"];\n😀") :=
    ⟨rfl, rfl, .cons ⟨rfl, rfl, rfl, fun h => nomatch h⟩ (.cons ⟨rfl, rfl, rfl, fun _ => rfl⟩ .nil)⟩
  obtain ⟨hexists, hplaces⟩ := texts_in_literals hentity
  have haccepted : ∀ f ∈ (memos "" "").dataFields, f.type = .boolean → ∃ v, f.coerced = .ok v := by
    have hdata : (memos "" "").dataFields = (memos "" "").fields := by decide +kernel
    rw [hdata]
    rintro f hf htype
    rcases List.mem_cons.1 hf with rfl | hf
    · cases htype
    · obtain rfl := List.mem_singleton.1 hf
      exact ⟨some (.flag true), by decide +kernel⟩
  obtain ⟨text, htext⟩ := hexists.2 (fun _ => haccepted)
  obtain ⟨hshows, hsame⟩ := hplaces text htext
  obtain ⟨text', htext', hlines⟩ := hsame _ hreworded
  exact ⟨⟨hentity, hform, hreworded⟩, text, text', htext, htext', hshows.ascii, (hshows.entries hform).length_eq.symm,
    hlines.length_eq⟩

end Schema

end Scaffold
