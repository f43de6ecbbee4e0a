import Scaffold.Proofs.Artifact.ComponentOutline
/-!
# Proofs.Artifact.ComponentPrint — the lines of a component are printable

A line of a component holds nothing outside of printable ASCII, whatever the names, labels and defaults of the fields:
the lines that are always the same are checked once, those that hold texts are woven from such pieces, and the others
name the entity.  So the text is read as these lines (`component_read_as_lines`).
-/
namespace Scaffold

open Naming Source Text

namespace Source

/-! ## Printable lines -/

def strange (l : String) : List Char := l.toList.filter (fun c => decide (¬ IsShown c))

theorem strange_eq_nil_iff {l : String} : strange l = [] ↔ ∀ c ∈ l.toList, IsShown c := by
  simp [strange, List.filter_eq_nil_iff]

theorem strange_append (a b : String) : strange (a ++ b) = strange a ++ strange b := by
  rw [strange, String.toList_append, List.filter_append]
  rfl

theorem strange_woven {pieces : List String} (h : ∀ p ∈ pieces, strange p = []) {l : String} (hl : WovenFrom pieces l) :
    strange l = [] := by
  obtain ⟨p, rest, heq, hp, hrest⟩ := hl
  have hpiece : ∀ q ∈ pieces.map String.toList, ∀ c ∈ q, IsShown c :=
    List.forall_mem_map.2 (fun q hq => strange_eq_nil_iff.1 (h q hq))
  rw [strange_eq_nil_iff, heq, weave]
  refine List.forall_mem_append.2 ⟨hpiece p hp, fun c hc => ?_⟩
  obtain ⟨r, hr, hc⟩ := List.mem_flatMap.1 hc
  rcases List.mem_append.1 hc with hc | hc
  · exact isShown_of_mem_literal hc
  · exact hpiece r.2 (hrest r hr) c hc

end Source

namespace Component

theorem flatMap_strange (lines : List String) : lines.flatMap strange =
    (lines.map String.toList).flatMap (fun l => l.filter (fun c => decide (¬ IsShown c))) := by
  rw [List.flatMap_map]
  rfl

def fixedLines : List String :=
  pieces ++ bareLines ++ (payloadBody ++ formatLines ++ loadLines ++ editLines ++ deleteLines)

theorem strange_fixedLines : fixedLines.flatMap strange = [] := by
  unfold fixedLines pieces bareLines payloadBody formatLines loadLines editLines deleteLines
  rw [flatMap_strange]
  simp only [List.cons_append, List.nil_append]
  repeat rw [map_toList_cons]
  rfl

theorem strange_framed (ops : Operations) :
    (stateLines ops ++ submitLines ops ++ tableLines ops ++ formLines ops []).flatMap strange = [] := by
  obtain ⟨create, read, update, delete⟩ := ops
  unfold stateLines submitLines targetLines savedLines tableLines editControl deleteControl formLines submitControl
    Operations.hasForm Operations.hasRowActions only Schema.identityName
  rw [flatMap_strange]
  cases create <;> cases update <;> cases delete
  all_goals
    simp only [-String.reduceToList, Bool.and_true, Bool.and_false, Bool.or_true, Bool.or_false, Bool.not_true,
      Bool.not_false, if_true, if_false, Bool.false_eq_true, List.cons_append, List.nil_append, List.map_cons,
      List.map_nil, String.toList_append]
    repeat rw [String.toList_ofList]
    rfl

end Component

namespace Schema

open Component

/-! ## The lines of a component -/

variable {s : Schema}

theorem strange_className (h : s.entityName.In identifiers) : strange s.className = [] :=
  strange_eq_nil_iff.2 (fun c hc => (isPlain_of_part (allParts_className_of_in h c hc)).1)

theorem strange_pathSegment (h : s.entityName.In identifiers) : strange s.pathSegment = [] :=
  strange_eq_nil_iff.2 (fun c hc => (isPlain_of_mem_pathSegment h c hc).1)

theorem strange_entityLines (h : s.entityName.In identifiers) :
    strange s.addressLine = [] ∧ strange s.exportLine = [] ∧ strange s.frameLine = [] := by
  have hbounds : ∀ l ∈ ["const API_URL = \"/", "\";", "export default function ", "List() \x7b",
      "    <div className=\"", "-list\">"], strange l = [] := by
    rw [← List.flatMap_eq_nil_iff, flatMap_strange]
    repeat rw [map_toList_cons]
    rfl
  have hline : ∀ {a t b : String}, strange a = [] → strange t = [] → strange b = [] → strange (a ++ t ++ b) = [] :=
    fun ha ht hb => by rw [strange_append, strange_append, ha, ht, hb]; rfl
  refine ⟨hline (hbounds _ (by simp)) (strange_pathSegment h) (hbounds _ (by simp)),
    hline (hbounds _ (by simp)) (strange_className h) (hbounds _ (by simp)),
    hline (hbounds _ (by simp)) (strange_pathSegment h) (hbounds _ (by simp))⟩

theorem strange_wovenLines (h : s.entityName.In identifiers) {entries : List String}
    (hentries : ∀ l ∈ entries, ∃ f : Field, f.formEntry = .ok l) : ∀ l ∈ s.wovenLines entries, strange l = [] := by
  have hpieces : ∀ p ∈ pieces, strange p = [] := fun p hp =>
    List.flatMap_eq_nil_iff.1 strange_fixedLines p (List.mem_append_left _ (List.mem_append_left _ hp))
  exact forall_mem_wovenLines (fun _ hl => strange_woven hpieces hl) (strange_entityLines h).2.2 hentries

theorem strange_componentLines (h : s.entityName.In identifiers) {entries : List String}
    (hentries : ∀ l ∈ entries, ∃ f : Field, f.formEntry = .ok l) : ∀ l ∈ s.componentLines entries, strange l = [] := by
  obtain ⟨haddress, hexport, -⟩ := strange_entityLines h
  have hfixed := strange_fixedLines
  have hframed := strange_framed s.operations
  simp only [fixedLines, List.flatMap_append, List.append_eq_nil_iff] at hfixed hframed
  obtain ⟨⟨-, hbare⟩, ⟨⟨⟨hpayload, hformat⟩, hload⟩, hedit⟩, hdelete⟩ := hfixed
  obtain ⟨⟨⟨hstate, hsubmit⟩, htable⟩, hform⟩ := hframed
  rw [← List.flatMap_eq_nil_iff, flatMap_componentLines (strange_wovenLines h hentries)
    (List.flatMap_eq_nil_iff.1 hbare)]
  simp only [haddress, hexport, hpayload, hformat, hload, hedit, hdelete, hstate, hsubmit, htable, hform, offered_nil,
    List.append_nil]

/-- **A component is printable ASCII with line feeds, and is read as its lines.** -/
theorem component_read_as_lines (h : s.entityName.In identifiers) {text : String} (htext : s.component = .ok text) :
    ∃ entries, s.formEntries = .ok entries ∧ (∀ c ∈ text.toList, c.toNat < 128) ∧
      textLines text = (s.componentLines entries).map String.toList ++ [[]] := by
  obtain ⟨entries, hentries, rfl⟩ := Sequence.map_eq_ok_iff.1 htext
  have hshown : ∀ l ∈ s.componentLines entries, ∀ c ∈ l.toList, IsShown c := fun l hl =>
    strange_eq_nil_iff.1 (strange_componentLines h (exists_of_mem_formEntries hentries) l hl)
  have hne := s.componentLines_ne_nil entries
  refine ⟨entries, hentries, fun c hc => ?_, textLines_complete hne (fun l hl => oneLine_of_shown (hshown l hl))⟩
  rw [toList_lines hne] at hc
  obtain ⟨_, hline, hc⟩ := List.mem_flatMap.1 hc
  obtain ⟨l, hl, rfl⟩ := List.mem_map.1 hline
  rcases List.mem_append.1 hc with hc | hc
  · have hbound := (hshown l hl c hc).2
    omega
  · rw [List.mem_singleton.1 hc]
    decide

end Schema

end Scaffold
