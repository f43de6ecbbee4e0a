import Scaffold.Proofs.Naming.Pattern
import Scaffold.Proofs.Schema.Acceptance
/-!
# Proofs.Schema.Gate — which schemas pass for compilation

`Conforms` says what is asked of a schema whose names are to be texts of some language.  A report has no errors exactly
if the schema conforms with names that are identifiers, a line feed at the end of a name being passed over; with
identifiers as such it conforms exactly if no name ends in one besides (`errors_eq_nil_iff_conforms`).
-/
namespace Scaffold

namespace Wording

open Naming

def In (w : Wording) (names : Language Char) : Prop := ∃ l ∈ names, w = ofText (String.ofList l)

def EndsInLineFeed (w : Wording) : Prop := w.signs.getLast? = some (.char '\n')

theorem endsInLineFeed_ofText {l : List Char} :
    (ofText (String.ofList l)).EndsInLineFeed ↔ l.getLast? = some '\n' := by
  simp [EndsInLineFeed, ofText]

theorem isIdentifier_iff_in {w : Wording} :
    Schema.isIdentifier w = true ↔ w.In (identifiers * (1 + lineFeed)) := by
  constructor
  · intro h
    refine ⟨w.shown.toList, isIdentifier_iff_mem.1 h, ?_⟩
    rw [String.ofList_toList, ofText_shown (isWhole_of_isIdentifier h)]
  · rintro ⟨l, hl, rfl⟩
    rw [Schema.isIdentifier, shown_ofText, String.toList_ofList]
    exact isIdentifier_iff_mem.2 hl

theorem isPlainIdentifier_of_in {w : Wording} (h : w.In identifiers) : isPlainIdentifier w.shown.toList = true := by
  obtain ⟨l, hl, rfl⟩ := h
  rw [shown_ofText, String.toList_ofList]
  exact mem_identifiers.1 hl

theorem not_endsInLineFeed_of_in {w : Wording} (h : w.In identifiers) : ¬ w.EndsInLineFeed := by
  obtain ⟨l, hl, rfl⟩ := h
  rw [endsInLineFeed_ofText]
  exact getLast?_ne_of_mem_identifiers hl

theorem in_identifiers_iff {w : Wording} :
    w.In identifiers ↔ Schema.isIdentifier w = true ∧ ¬ w.EndsInLineFeed := by
  rw [isIdentifier_iff_in]
  constructor
  · intro h
    refine ⟨?_, not_endsInLineFeed_of_in h⟩
    obtain ⟨l, hl, rfl⟩ := h
    exact ⟨l, Language.mem_mul.2 ⟨l, hl, [], (Language.mem_add _ _ _).2 (.inl rfl), List.append_nil l⟩, rfl⟩
  · rintro ⟨⟨l, hl, rfl⟩, hend⟩
    obtain ⟨p, hp, rest, hrest, rfl⟩ := Language.mem_mul.1 hl
    rcases (Language.mem_add _ _ _).1 hrest with hnil | hfeed
    · obtain rfl := (Language.mem_one _).1 hnil
      exact ⟨p, hp, by rw [List.append_nil]⟩
    · obtain rfl := mem_range_self.1 hfeed
      exact absurd (endsInLineFeed_ofText.2 (by simp)) hend

end Wording

namespace Schema

def names (s : Schema) : List Wording := s.entityName :: s.fields.map Field.name

/-- **What is asked of a schema** whose names are to be of a language: no two fields whose names differ in case alone,
and defaults that the types of their fields take, that of the identity aside. -/
structure Conforms (language : Language Char) (s : Schema) : Prop where
  entityName : s.entityName.In language
  nonempty : s.fields ≠ []
  fieldNames : ∀ f ∈ s.fields, f.name.In language
  distinct : s.fields.Pairwise (fun f g => f.name.lower ≠ g.name.lower)
  defaults : ∀ f ∈ s.fields, f.namesIdentity = false → ∀ d, f.default? = some d → ∃ v, Default.coerce f.type d = .ok v

theorem exists_coerced_iff (f : Field) :
    (∃ v, f.coerced = .ok v) ↔ ∀ d, f.default? = some d → ∃ v, Default.coerce f.type d = .ok v := by
  unfold Field.coerced
  cases hd : f.default? with
  | none => simp
  | some d => cases hc : Default.coerce f.type d <;> simp [hc, Except.map]

/-- **The checks and a language of names.**  Where the names of the language are those that pass for identifiers and
have one property more, a schema conforms exactly if the checks accept it and its names have the property. -/
theorem conforms_iff {language : Language Char} {P : Wording → Prop}
    (hnames : ∀ w, w.In language ↔ isIdentifier w = true ∧ P w) (s : Schema) :
    s.Conforms language ↔ s.Accepted ∧ ∀ w ∈ s.names, P w := by
  simp only [names, List.forall_mem_cons, List.forall_mem_map]
  constructor
  · intro h
    obtain ⟨hentity, hP⟩ := (hnames _).1 h.entityName
    have hfields : ∀ f ∈ s.fields, isIdentifier f.name = true ∧ P f.name := fun f hf =>
      (hnames _).1 (h.fieldNames f hf)
    exact ⟨⟨hentity, h.nonempty, List.pairwise_map.2 h.distinct, fun f hf => (hfields f hf).1,
      fun f hf hid => (exists_coerced_iff f).2 (h.defaults f hf hid)⟩, hP, fun f hf => (hfields f hf).2⟩
  · rintro ⟨h, hP, hPs⟩
    exact ⟨(hnames _).2 ⟨h.entity, hP⟩, h.nonempty, fun f hf => (hnames _).2 ⟨h.names f hf, hPs f hf⟩,
      List.pairwise_map.1 h.distinct, fun f hf hid => (exists_coerced_iff f).1 (h.defaults f hf hid)⟩

/-- **Which schemas pass**: a report has no errors exactly if the schema conforms with names that are identifiers with
or without a line feed behind them, whatever the threshold.  Those that conform with identifiers as such are the schemas
that pass and have no name with a line feed at its end. -/
theorem errors_eq_nil_iff_conforms (threshold : Int) (s : Schema) :
    ((s.validate threshold).errors = [] ↔ s.Conforms (Naming.identifiers * (1 + Naming.lineFeed))) ∧
    (s.Conforms Naming.identifiers ↔ (s.validate threshold).errors = [] ∧ ∀ w ∈ s.names, ¬ w.EndsInLineFeed) := by
  rw [errors_eq_nil_iff]
  refine ⟨?_, conforms_iff (fun _ => Wording.in_identifiers_iff) s⟩
  rw [conforms_iff (P := fun _ => True) (fun w => by simp [Wording.isIdentifier_iff_in])]
  simp

def brokenBook : Schema := { entityName := "Book\n", fields := [{ id := "1", name := "title" }] }

/-- **A name that ends in a line feed passes**, and is no identifier. -/
theorem brokenBook_passes :
    (brokenBook.validate defaultThreshold).errors = [] ∧ ¬ brokenBook.Conforms Naming.identifiers := by
  have hend : brokenBook.entityName.EndsInLineFeed := by
    unfold Wording.EndsInLineFeed
    decide
  exact ⟨by decide +kernel, fun h => Wording.not_endsInLineFeed_of_in h.entityName hend⟩

end Schema
end Scaffold
