import Scaffold.Proofs.Artifact.ModelLine
import Scaffold.Proofs.Schema.Default
import Scaffold.Proofs.Sequence
/-!
# Proofs.Artifact.ModelDefault — what a model says of a text as default

The default of a mapped attribute stands in a literal, and read as the language of modules reads it, the literal denotes
the 16-bit units of the text.  That is the text itself exactly if none of its characters needs two units
(`modelDefault_eq_iff`).
-/
namespace Scaffold

open Source Text

namespace Wording

def points (w : Wording) : List Nat := w.signs.map Sign.point

end Wording

namespace Field

theorem hasValue_of_mappedColumn {f : Field} {attr : String} {c : MappedColumn} (h : f.mappedColumn attr = .ok c) :
    c.HasValue := by
  obtain ⟨value, -, rfl⟩ := Sequence.map_eq_ok_iff.1 h
  intro d hd
  obtain ⟨v, -, rfl⟩ := Option.map_eq_some_iff.1 hd
  exact ⟨v, rfl⟩

/-- **What the model says of the default of a field whose defaults are texts.**  The line begins with the attribute,
whatever it is.  The server default behind it is one literal; as a literal of a module it denotes the 16-bit units of
the text that the default stands for, and so that text exactly if no character is beyond the first 65536. -/
theorem modelDefault_eq_iff {f : Field} {v : Wording} {value : DefaultValue} (htype : f.type.IsTextual)
    (hdefault : f.default? = some v) (hvalue : Default.coerce f.type v = .ok value) (attr : String) :
    ∃ w c rest body, value = .text w ∧ f.mappedColumn attr = .ok c ∧ c.line = "    " ++ attr ++ rest ∧
      keyword? "server_default" (callArguments (sides (tokens .escaped rest.toList)).2) = some [.quoted '"' body] ∧
      decode .module body = some (w.points.flatMap unitsOf) ∧
      (decode .module body = some w.points ↔ ∀ n ∈ w.points, n < 0x10000) := by
  obtain ⟨w, rfl, -⟩ := Default.text_of_coerce htype hvalue
  obtain ⟨c, hc, hattr, hmodel⟩ : ∃ c, f.mappedColumn attr = .ok c ∧ c.attr = attr ∧
      c.default? = some (.literal w) := by
    simp [mappedColumn, coerced, hdefault, hvalue, Except.map, ModelDefault.ofValue]
  have hdecode : decode .module (w.signs.flatMap literalSign) = some (w.points.flatMap unitsOf) :=
    decode_literal .module w.signs
  refine ⟨w, c, c.declaredText, w.signs.flatMap literalSign, rfl, hc, ?_, ?_, hdecode, ?_⟩
  · rw [c.line_eq, hattr]
  · rw [MappedColumn.arguments_declaredText (hasValue_of_mappedColumn hc), MappedColumn.keyword?_server_default, hmodel]
    rfl
  · rw [hdecode, Option.some.injEq, unitsOf_eq_self_iff]

def textWith (content : String) : Field := { id := "1", name := "v", default? := some (content : Wording) }

/-- **Quotes and line ends come back.** -/
theorem quotes_come_back : ∃ c rest body, (textWith "a\"b\\\n").mappedColumn "v" = .ok c ∧ c.line = "    v" ++ rest ∧
    keyword? "server_default" (callArguments (sides (tokens .escaped rest.toList)).2) = some [.quoted '"' body] ∧
      decode .module body = some ("a\"b\\\n".toList.map Char.toNat) := by
  have htype : (textWith "a\"b\\\n").type.IsTextual := trivial
  have hvalue : Default.coerce (textWith "a\"b\\\n").type "a\"b\\\n" = .ok (.text "a\"b\\\n") := by decide
  obtain ⟨w, c, rest, body, hw, hc, hline, hbody, -, hexact⟩ := modelDefault_eq_iff htype rfl hvalue "v"
  obtain rfl := DefaultValue.text.inj hw
  exact ⟨c, rest, body, hc, hline, hbody, hexact.2 (by decide)⟩

/-- **A character beyond the first 65536 does not come back**: a module reads two halves of a pair in its place. -/
theorem emoji_changed : Default.coerce .string "😀" = .ok (.text "😀") ∧
    ((textWith "😀").mappedColumn "v").toOption.map MappedColumn.line = some
      "    v: Mapped[Optional[str]] = mapped_column(String(255), nullable=True, server_default=\"\\ud83d\\ude00\")" ∧
    decode .module "\\ud83d\\ude00".toList = some [0xd83d, 0xde00] ∧
    decode .module "\\ud83d\\ude00".toList ≠ some ("😀" : Wording).points := by
  decide +kernel

end Field
end Scaffold
