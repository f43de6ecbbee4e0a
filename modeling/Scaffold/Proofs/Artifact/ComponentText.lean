import Scaffold.Artifact.Component
import Scaffold.Proofs.Artifact.Compilation
import Scaffold.Proofs.Artifact.Names
import Scaffold.Proofs.Source.Block
/-!
# Proofs.Artifact.ComponentText — the empty form of a component, read back

Up to the end of the empty form the text of a component is read as lines.  If there is a form, its entries are found
among them, one for each data field in declared order, under the literal of the field's name (`Named.component_read`).
-/
namespace Scaffold

open Naming Source Text

namespace Field

theorem initialValue_cases {f : Field} {v : String} (h : f.initialValue = .ok v) :
    v = "true" ∨ v = "false" ∨ ∃ w, v = quoted w := by
  unfold initialValue at h
  split at h
  · split at h
    · cases h
    · exact .inl (Except.ok.inj h).symm
    · exact .inr (.inl (Except.ok.inj h).symm)
  · exact .inr (.inr ⟨_, (Except.ok.inj h).symm⟩)

theorem entered?_entry (f : Field) {v : String} {ts : List Token} (hts : Reads .escaped v.toList ts) :
    entered? ("  " ++ quoted f.name ++ ": " ++ v ++ ",").toList =
      some (f.name.signs.flatMap literalSign, ts ++ [.mark ',']) := by
  have hspaces : Closes .escaped "  ".toList [] := closes_spaces 2
  have hcolon : Closes .escaped ": ".toList [.mark ':'] := Closes.of_run rfl
  have hcomma : Closes .escaped ",".toList [.mark ','] := Closes.of_run rfl
  have hline := ((((hspaces.append (closes_literal f.name.signs)).append hcolon).append_reads hts).append_closes hcomma
    (fun rest => separated_cons_append rfl [] rest)).reads.tokens_eq
  have htext : ("  " ++ quoted f.name ++ ": " ++ v ++ ",").toList =
      "  ".toList ++ literal f.name.signs ++ ": ".toList ++ v.toList ++ ",".toList := by
    unfold quoted
    simp only [String.toList_append, String.toList_ofList]
  rw [htext, entered?, hline]
  rfl

theorem reads_quoted (w : Wording) : Reads .escaped (quoted w).toList [.quoted '"' (w.signs.flatMap literalSign)] := by
  simpa [quoted] using (closes_literal w.signs).reads

/-- **The entry is the one that the form has for the field.** -/
def HasEntry (f : Field) (e : List Char × List Token) : Prop :=
  ∃ line, f.formEntry = .ok line ∧ entered? line.toList = some e

theorem exists_reads_initialValue {f : Field} {v : String} (h : f.initialValue = .ok v) :
    ∃ ts, Reads .escaped v.toList ts := by
  rcases initialValue_cases h with rfl | rfl | ⟨w, rfl⟩
  · exact ⟨[.word "true".toList], Reads.of_whole rfl⟩
  · exact ⟨[.word "false".toList], Reads.of_whole rfl⟩
  · exact ⟨_, reads_quoted w⟩

theorem exists_hasEntry {f : Field} {line : String} (h : f.formEntry = .ok line) :
    ∃ e, entered? line.toList = some e ∧ f.HasEntry e := by
  obtain ⟨v, hv, hline⟩ := Sequence.map_eq_ok_iff.1 h
  obtain ⟨ts, hts⟩ := exists_reads_initialValue hv
  have hentered := hline ▸ f.entered?_entry hts
  exact ⟨_, hentered, line, h, hentered⟩

theorem HasEntry.eq_of_initialValue {f : Field} {e : List Char × List Token} (h : f.HasEntry e) {v : String}
    (hv : f.initialValue = .ok v) {ts : List Token} (hts : Reads .escaped v.toList ts) :
    e = (f.name.signs.flatMap literalSign, ts ++ [.mark ',']) := by
  obtain ⟨line, hline, he⟩ := h
  rw [formEntry, hv] at hline
  obtain rfl := Except.ok.inj hline
  exact Option.some.inj (he.symm.trans (f.entered?_entry hts))

theorem HasEntry.key_eq {f : Field} {e : List Char × List Token} (h : f.HasEntry e) :
    e.1 = f.name.signs.flatMap literalSign := by
  obtain ⟨v, hv, -⟩ := Sequence.map_eq_ok_iff.1 h.choose_spec.1
  obtain ⟨ts, hts⟩ := exists_reads_initialValue hv
  rw [h.eq_of_initialValue hv hts]

theorem oneLine_formEntry {f : Field} {line : String} (h : f.formEntry = .ok line) : OneLine line := by
  obtain ⟨v, hv, rfl⟩ := Sequence.map_eq_ok_iff.1 h
  have hvalue : OneLine v := by
    rcases initialValue_cases hv with rfl | rfl | ⟨w, rfl⟩
    · exact oneLine_ofList (by decide)
    · exact oneLine_ofList (by decide)
    · exact oneLine_quoted w
  simp only [oneLine_append, oneLine_quoted, hvalue]
  refine ⟨⟨⟨⟨?_, trivial⟩, ?_⟩, trivial⟩, ?_⟩ <;> exact oneLine_ofList (by decide)

theorem oneLine_listingLine (f : Field) : OneLine f.listingLine := by
  have hwidget : OneLine f.type.mapping.widget.name := by cases f.type <;> exact oneLine_ofList (by decide)
  unfold listingLine
  simp only [oneLine_append, oneLine_quoted, hwidget]
  refine ⟨⟨⟨⟨⟨⟨?_, trivial⟩, ?_⟩, trivial⟩, ?_⟩, trivial⟩, ?_⟩ <;> exact oneLine_ofList (by decide)

end Field

namespace Schema

def componentPreamble (s : Schema) : List String :=
  ["import \x7b useEffect, useState \x7d from \"react\";",
   "",
   "const API_URL = \"/" ++ s.pathSegment ++ "\";",
   "",
   "const COLUMNS = ["] ++
  s.fields.map Field.listingLine ++
  ["];",
   ""]

theorem componentLines_eq {s : Schema} (h : s.operations.hasForm = true) (entries : List String) :
    ∃ rest, s.componentLines entries =
      (s.componentPreamble ++ "const EMPTY_FORM = \x7b" :: (entries ++ ["\x7d;"])) ++ rest := by
  unfold componentLines componentPreamble Component.only
  simp only [h, if_true, List.append_assoc, List.cons_append, List.nil_append]
  exact ⟨_, rfl⟩

theorem formLine_not_mem (s : Schema) : "const EMPTY_FORM = \x7b" ∉ s.componentPreamble := by
  -- the seventh character tells them apart
  have hform : "const EMPTY_FORM = \x7b".toList[6]? = some 'E' := by rw [String.toList_ofList]; rfl
  have hpath : ("const API_URL = \"/" ++ s.pathSegment ++ "\";").toList[6]? = some 'A' := by
    rw [String.append_assoc, String.toList_append, String.toList_ofList]
    rfl
  have hlisting : ∀ f : Field, f.listingLine.toList[6]? = some 'm' := fun f => by
    unfold Field.listingLine
    simp only [String.append_assoc]
    rw [String.toList_append, String.toList_ofList]
    rfl
  have hother : ∀ l ∈ s.componentPreamble, l.toList[6]? ≠ some 'E' := by
    unfold componentPreamble
    refine List.forall_mem_append.2 ⟨List.forall_mem_append.2 ⟨?_, List.forall_mem_map.2 (fun f _ => ?_)⟩, ?_⟩
    · simp only [List.forall_mem_cons, List.not_mem_nil, false_implies, implies_true, hpath, and_true]
      and_intros <;> first | (rw [String.toList_ofList]; decide) | decide
    · rw [hlisting f]
      decide
    · decide
  exact fun hmem => hother _ hmem hform

theorem exists_of_mem_formEntries {s : Schema} {entries : List String} (h : s.formEntries = .ok entries) :
    ∀ l ∈ entries, ∃ f : Field, f.formEntry = .ok l := by
  unfold formEntries at h
  split at h
  · intro l hl
    obtain ⟨f, -, hline⟩ := Sequence.exists_of_mem_mapM h hl
    exact ⟨f, hline⟩
  · obtain rfl := Except.ok.inj h
    exact List.forall_mem_nil _

theorem formEnd_not_mem {fields : List Field} {lines : List String}
    (h : List.Forall₂ (fun f line => f.formEntry = .ok line) fields lines) : "\x7d;" ∉ lines := by
  have hspace : ∀ l ∈ lines, l.toList.head? = some ' ' := Sequence.forall_mem_of_forall₂ (fun f line hline => by
    obtain ⟨v, -, rfl⟩ := Sequence.map_eq_ok_iff.1 hline
    simp only [String.append_assoc]
    rw [String.toList_append, String.toList_ofList]
    rfl) h
  exact fun hmem => absurd (hspace _ hmem) (by decide)

theorem entries_form {fields : List Field} {lines : List String}
    (h : List.Forall₂ (fun f line => f.formEntry = .ok line) fields lines) :
    List.Forall₂ Field.HasEntry fields (entries (lines.map String.toList)) := by
  induction h with
  | nil => exact .nil
  | cons hline _ ih =>
    obtain ⟨e, he, hentry⟩ := Field.exists_hasEntry hline
    rw [List.map_cons, entries, List.filterMap_cons_some he]
    exact .cons hentry ih

def emptyForm (component : String) : List (List Char) :=
  between "const EMPTY_FORM = \x7b" "\x7d;" (textLines component)

/-- **Behind the lines before it the form is read entry by entry**, one for each data field. -/
theorem component_entries {s : Schema} {text : String} (h : s.component = .ok text)
    (hform : s.operations.hasForm = true) : ∃ form, text = "\n".intercalate s.componentPreamble ++ "\n" ++ form ∧
      List.Forall₂ Field.HasEntry s.dataFields (entries (emptyForm form)) := by
  obtain ⟨lines, hlines, rfl⟩ := Sequence.map_eq_ok_iff.1 h
  rw [formEntries, if_pos hform, Sequence.mapM_eq_ok_iff] at hlines
  obtain ⟨rest, hrest⟩ := componentLines_eq hform lines
  have hpreamble : s.componentPreamble ≠ [] := by simp [componentPreamble]
  rw [hrest, List.append_assoc, lines_append hpreamble (by simp)]
  refine ⟨_, rfl, ?_⟩
  have honeLine : ∀ l ∈ "const EMPTY_FORM = \x7b" :: (lines ++ ["\x7d;"]), OneLine l :=
    List.forall_mem_cons.2 ⟨oneLine_ofList (by decide), List.forall_mem_append.2
      ⟨Sequence.forall_mem_of_forall₂ (fun _ _ hl => Field.oneLine_formEntry hl) hlines,
        List.forall_mem_singleton.2 (oneLine_ofList (by decide))⟩⟩
  rw [emptyForm, textLines_append (by simp) honeLine]
  have hfirst : "const EMPTY_FORM = \x7b" ∉ ([] : List String) := List.not_mem_nil
  have hbetween := between_map_toList hfirst (formEnd_not_mem hlines) []
  rw [List.nil_append] at hbetween
  rw [hbetween]
  exact entries_form hlines

end Schema
end Scaffold
