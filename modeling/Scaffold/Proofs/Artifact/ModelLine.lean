import Scaffold.Artifact.Model
import Scaffold.Proofs.Source.Declaration
/-!
# Proofs.Artifact.ModelLine — the line of a mapped attribute, read back

The line is the name of the attribute and a declaration behind it.  Whatever the name is, the declaration is read as its
annotation and a call, and the arguments of the call are those of the attribute (`arguments_declaredText`).
-/
namespace Scaffold

open Source Text

namespace Storage

def tokens : Storage → List Token
  | .string n => [.word "String".toList, .mark '(', .word (numeral n), .mark ')']
  | s => [.word s.typeName.toList]

theorem isArgument (s : Storage) : IsArgument s.expression.toList s.tokens := by
  cases s with
  | string n =>
    have htext : (Storage.string n).expression.toList = "String(".toList ++ numeral n ++ [')'] := by
      have hdigits : (toString n).toList = numeral n := by simp [numeral]
      simp only [expression, String.toList_append, List.append_assoc, hdigits]
      rfl
    rw [htext]
    exact IsArgument.call rfl (reads_numeral .escaped n) (by simp)
  | _ => exact IsArgument.of_whole rfl rfl

end Storage

namespace ModelDefault

def tokens : ModelDefault → List Token
  | .expression w => [.word "text".toList, .mark '(', .quoted '"' w.shown.toList, .mark ')']
  | .literal w => [.quoted '"' (w.signs.flatMap literalSign)]

theorem isPlain_written (v : DefaultValue) (h : ∀ w, v ≠ .text w) : ∀ c ∈ v.written.shown.toList, IsPlain c := by
  cases v with
  | text w => exact absurd rfl (h w)
  | number n =>
    cases n with
    | ofNat n =>
      simpa [DefaultValue.written, intNumeral] using fun c hc => isPlain_of_part (part_of_mem_numeral (n := n) hc)
    | negSucc n =>
      have hminus : IsPlain '-' := by decide
      simpa [DefaultValue.written, intNumeral, hminus] using fun c hc =>
        isPlain_of_part (part_of_mem_numeral (n := n + 1) hc)
  | flag b =>
    have hparts : (DefaultValue.flag b).written.shown.toList.all Naming.isIdentifierPart = true := by cases b <;> decide
    exact fun c hc => isPlain_of_part (List.all_eq_true.1 hparts c hc)

theorem isArgument_ofValue (v : DefaultValue) :
    IsArgument (ofValue v).argument.toList (ofValue v).tokens := by
  have hexpression : ∀ w : Wording, Inside w.shown.toList →
      IsArgument (argument (.expression w)).toList (tokens (.expression w)) := by
    intro w hw
    have htext : (argument (.expression w)).toList = "text(".toList ++ ('"' :: w.shown.toList ++ ['"']) ++ [')'] := by
      simp [argument]
    rw [htext]
    exact IsArgument.call rfl hw.closes.reads (by simp)
  cases v with
  | text w => simpa [ofValue, argument, quoted, tokens] using isArgument_literal w.signs
  | number n => exact hexpression _ (inside_of_isPlain (isPlain_written (.number n) (by simp)))
  | flag b => exact hexpression _ (inside_of_isPlain (isPlain_written (.flag b) (by simp)))

end ModelDefault

namespace MappedColumn

def HasValue (c : MappedColumn) : Prop := ∀ d ∈ c.default?, ∃ v, d = .ofValue v

def argumentTokens (c : MappedColumn) : List (List Token) :=
  (c.column?.map (fun w => [.quoted '"' (w.signs.flatMap literalSign)])).toList ++ [c.storage.tokens] ++
    [[.word "nullable".toList, .mark '=', .word (if c.optional then "True" else "False").toList]] ++
    (c.default?.map (fun d => .word "server_default".toList :: .mark '=' :: d.tokens)).toList ++
    (if c.index then [[.word "index".toList, .mark '=', .word "True".toList]] else [])

theorem forall₂_arguments {c : MappedColumn} (h : c.HasValue) :
    List.Forall₂ IsArgument (c.arguments.map String.toList) c.argumentTokens := by
  unfold arguments argumentTokens
  rw [List.map_append, List.map_append, List.map_append, List.map_append]
  refine List.rel_append (List.rel_append (List.rel_append (List.rel_append ?_ ?_) ?_) ?_) ?_
  · cases c.column? with
    | none => exact .nil
    | some w => exact .cons (by simpa [quoted] using isArgument_literal w.signs) .nil
  · exact .cons c.storage.isArgument .nil
  · cases c.optional <;> exact .cons (IsArgument.of_whole rfl rfl) .nil
  · cases hd : c.default? with
    | none => exact .nil
    | some d =>
      obtain ⟨v, rfl⟩ := h d (by simp [hd])
      have hkey : run .escaped .none "server_default=".toList = ([.word "server_default".toList, .mark '='], .none) :=
        rfl
      refine .cons ?_ .nil
      rw [String.toList_append]
      exact IsArgument.keyword hkey (ModelDefault.isArgument_ofValue v)
  · cases c.index with
    | false => exact .nil
    | true => exact .cons (IsArgument.of_whole rfl rfl) .nil

def declaredText (c : MappedColumn) : String :=
  ": Mapped[" ++ c.annotation ++ "] = mapped_column(" ++ ", ".intercalate c.arguments ++ ")"

theorem line_eq (c : MappedColumn) : c.line = "    " ++ c.attr ++ c.declaredText := by
  unfold line declaredText
  simp only [String.append_assoc]

theorem reads_annotated (c : MappedColumn) :
    Reads .escaped c.annotation.toList (annotationTokens c.optional c.binding.name) :=
  Source.reads_annotated c.optional (by cases c.binding <;> decide)

def headTokens (c : MappedColumn) : List Token :=
  .mark ':' :: .word "Mapped".toList :: .mark '[' :: (annotationTokens c.optional c.binding.name ++ [.mark ']'])

def callTokens (c : MappedColumn) : List Token :=
  .word "mapped_column".toList :: .mark '(' :: (join [.mark ','] c.argumentTokens ++ [.mark ')'])

/-- **What the line says behind the name is read as an annotation and a call.** -/
theorem closes_declaredText {c : MappedColumn} (h : c.HasValue) :
    Closes .escaped c.declaredText.toList (c.headTokens ++ .mark '=' :: c.callTokens) := by
  have hhead : Closes .escaped ": Mapped[".toList [.mark ':', .word "Mapped".toList, .mark '['] := Closes.of_run rfl
  have hopen : Closes .escaped "] = mapped_column(".toList
      [.mark ']', .mark '=', .word "mapped_column".toList, .mark '('] := Closes.of_run rfl
  have hannotated := (hhead.append_reads c.reads_annotated).append_closes hopen
    (fun rest => separated_cons_append rfl _ rest)
  have hcall := closes_call hannotated (forall₂_arguments h)
  unfold declaredText headTokens callTokens
  simp only [String.toList_append, String.toList_intercalate, intercalate_eq_join, List.append_assoc, List.cons_append,
    List.nil_append] at hcall ⊢
  exact hcall

theorem argumentTokens_ne_nil (c : MappedColumn) : c.argumentTokens ≠ [] := by
  have hstorage : c.storage.tokens ∈ c.argumentTokens := by
    simp only [argumentTokens, List.mem_append, List.mem_singleton, true_or, or_true]
  exact List.ne_nil_of_mem hstorage

theorem sides_declaredText {c : MappedColumn} (h : c.HasValue) :
    sides (tokens .escaped c.declaredText.toList) = (c.headTokens, c.callTokens) := by
  have hhead : ∀ t ∈ c.headTokens, t ≠ .mark '=' := by
    have hannotated := annotationTokens_ne c.optional c.binding.name
    unfold headTokens
    simp only [List.forall_mem_cons, List.forall_mem_append]
    exact ⟨by simp, by simp, by simp, hannotated, by simp, by simp⟩
  rw [(closes_declaredText h).reads.tokens_eq, sides_append hhead]

theorem arguments_declaredText {c : MappedColumn} (h : c.HasValue) :
    callArguments (sides (tokens .escaped c.declaredText.toList)).2 = c.argumentTokens := by
  rw [sides_declaredText h]
  exact callArguments_of_forall₂ (forall₂_arguments h) c.argumentTokens_ne_nil _

theorem keyword?_argumentTokens (k : String) (c : MappedColumn) : keyword? k c.argumentTokens =
    (valueFor? k [.word "nullable".toList, .mark '=', .word (if c.optional then "True" else "False").toList]).or
      ((c.default?.bind (fun d => valueFor? k (.word "server_default".toList :: .mark '=' :: d.tokens))).or
        (if c.index then valueFor? k [.word "index".toList, .mark '=', .word "True".toList] else none)) := by
  have hcolumn : keyword? k (c.column?.map (fun w => [.quoted '"' (w.signs.flatMap literalSign)])).toList = none := by
    cases c.column? <;> rfl
  have hstorage : keyword? k [c.storage.tokens] = none := by cases c.storage <;> rfl
  have hdefault : keyword? k (c.default?.map (fun d =>
      .word "server_default".toList :: .mark '=' :: d.tokens)).toList =
        c.default?.bind (fun d => valueFor? k (.word "server_default".toList :: .mark '=' :: d.tokens)) := by
    cases c.default? with
    | none => rfl
    | some d => exact keyword?_singleton k _
  have hindex : keyword? k (if c.index then [[.word "index".toList, .mark '=', .word "True".toList]] else []) =
      if c.index then valueFor? k [.word "index".toList, .mark '=', .word "True".toList] else none := by
    cases c.index with
    | false => rfl
    | true => exact keyword?_singleton k _
  rw [argumentTokens, keyword?_append, keyword?_append, keyword?_append, keyword?_append, hcolumn, hstorage,
    keyword?_singleton, hdefault, hindex, Option.none_or, Option.none_or, Option.or_assoc]

theorem keyword?_server_default (c : MappedColumn) :
    keyword? "server_default" c.argumentTokens = c.default?.map ModelDefault.tokens := by
  rw [keyword?_argumentTokens]
  cases c.default? <;> cases c.index <;> rfl

theorem keyword?_nullable (c : MappedColumn) :
    keyword? "nullable" c.argumentTokens = some [.word (if c.optional then "True" else "False").toList] := by
  rw [keyword?_argumentTokens]
  rfl

theorem keyword?_index (c : MappedColumn) :
    keyword? "index" c.argumentTokens = if c.index then some [.word "True".toList] else none := by
  rw [keyword?_argumentTokens]
  cases c.default? <;> cases c.index <;> rfl

theorem keyword?_primary_key (c : MappedColumn) : keyword? "primary_key" c.argumentTokens = none := by
  rw [keyword?_argumentTokens]
  cases c.default? <;> cases c.index <;> rfl

end MappedColumn
end Scaffold
