import Scaffold.Proofs.Artifact.Definition
import Scaffold.Proofs.Artifact.Compilation
import Scaffold.Proofs.Schema.Default
/-!
# Proofs.Artifact.ScriptDefault — what a script says of a text as default

A script is read back definition by definition.  The text that it has as the default of a field is the one that the
default stands for, laid out by itself; so it is that text exactly if laying out leaves it alone
(`textDefault_eq_iff_kept`), which dates and addresses always are.
-/
namespace Scaffold

open Source Text

namespace Script

theorem kept_of_coerce {type : FieldType} (htype : type.IsTextual) {v : Wording} {value : DefaultValue}
    (h : Default.coerce type v = .ok value) : ∃ w, value = .text w ∧
      (type = .date ∨ type = .email → Kept w.shown.toList) := by
  obtain ⟨w, rfl, hdate, hemail⟩ := Default.text_of_coerce htype h
  refine ⟨w, rfl, ?_⟩
  rintro (htype | htype)
  · exact kept_of_ink (hdate htype)
  · rcases dropFinalNewline_cases w.shown.toList with heq | heq
    · exact kept_of_ink (heq ▸ hemail htype)
    · rw [heq]
      exact kept_concat_of_ink (hemail htype)

theorem textDefault?_typeTokens (t : ColumnType) (ts : List Token) :
    textDefault? (typeTokens t ++ ts) = textDefault? ts := by
  have hword : ∀ w : List Char, w ≠ "DEFAULT".toList → textDefault? (.word w :: ts) = textDefault? ts := by
    intro w hw
    rw [textDefault?.eq_def]
    split
    · rename_i heq
      obtain ⟨heq, rfl⟩ := List.cons.inj heq
      cases heq
      rw [if_neg (fun h => hw h.1)]
    · rename_i heq
      obtain ⟨-, rfl⟩ := List.cons.inj heq
      rfl
    · rename_i heq
      cases heq
  cases t with
  | varchar n => simp [typeTokens, textDefault?]
  | _ => exact hword _ (by decide)

/-- **The default of a column is read back**, laid out. -/
theorem textDefault?_columnTokens {c : Column} (hkey : c.primaryKey = false) {w : Wording}
    (hc : c.default? = some (.literal w)) :
    textDefault? ((columnTokens c).map Token.relaid).tail = some (relaid w.shown.toList) := by
  have htype : (typeTokens c.type).map Token.relaid = typeTokens c.type := by cases c.type <;> rfl
  have hclause : clauseTokens c = [.word "DEFAULT".toList, .quoted '\'' w.shown.toList] ++
      (if c.nullable then [] else [.word "NOT".toList, .word "NULL".toList]) := by
    simp [clauseTokens, hkey, hc, defaultTokens]
  rw [columnTokens, List.map_cons, List.tail_cons, List.map_append, htype, textDefault?_typeTokens, hclause]
  rfl

theorem script_eq_ok {s : Schema} {text : String} (h : s.script = .ok text) : ∃ t rest, s.table = .ok t ∧
    text = "-- " ++ s.entityName.shown ++ " schema\n\n" ++ (lay (createTable t) ++ String.ofList rest) := by
  obtain ⟨t, ht, h⟩ := Sequence.bind_eq_ok_iff.1 h
  obtain ⟨l, hl, h⟩ := Sequence.bind_eq_ok_iff.1 h
  obtain ⟨indexes, -, rfl⟩ := Sequence.map_eq_ok_iff.1 hl
  obtain ⟨rest, hrest⟩ := exists_join_cons "\n\n".toList (lay (createTable t)).toList
    ((indexes.map lay).map String.toList)
  refine ⟨t, rest ++ ['\n'], ht, ?_⟩
  rw [← Except.ok.inj h, ← String.toList_inj]
  simp only [String.toList_append, String.toList_intercalate, intercalate_eq_join, List.map_cons, String.toList_ofList]
  rw [join_cons _ (by simp), hrest]
  simp only [List.append_assoc]
  rfl

theorem columns_of_table {s : Schema} {t : Table} (h : s.table = .ok t) : ∃ columns,
    List.Forall₂ (fun f c => Field.column f = .ok c) s.dataFields columns ∧
      t.columns = Table.identityColumn :: columns := by
  unfold Schema.table at h
  split at h
  · cases h
  · rename_i columns hcolumns
    simp only at h
    split at h
    · cases h
    · rw [← Except.ok.inj h]
      exact ⟨columns, (Sequence.mapM_eq_ok_iff _ _ _).1 hcolumns, rfl⟩

theorem isValue_of_column {f : Field} {c : Column} (h : f.column = .ok c) : ∀ d ∈ c.default?, IsValue d := by
  obtain ⟨value, -, rfl⟩ := Sequence.map_eq_ok_iff.1 h
  intro d hd
  obtain ⟨v, -, rfl⟩ := Option.map_eq_some_iff.1 hd
  exact ⟨v, rfl⟩

end Script

namespace Schema

/-- **What a script says of the default of a field whose defaults are texts.**  Behind the comment stand the definitions
of the identity, of each data field in its place and under its name, and of the key.  The text between the quotes of a
default is the text that the default stands for exactly if laying out leaves that text alone: if all its line ends are
line feeds, none of them behind white space other than a line feed, and none before a tab.  A date and an address are
always left alone. -/
theorem textDefault_eq_iff_kept {s : Schema} {text : String} (h : s.script = .ok text) :
    ∃ body : String, text = "-- " ++ s.entityName.shown ++ " schema\n\n" ++ body ∧
      ∃ identity definitions key, Script.definitions body.toList = identity :: definitions ++ [key] ∧
        List.Forall₂ (fun f d =>
          d.head? = some (Script.nameToken f.name.shown).relaid ∧
          ∀ v value, f.type.IsTextual → f.default? = some v → Default.coerce f.type v = .ok value →
            ∃ w literal, value = .text w ∧ Script.textDefault? d.tail = some literal ∧
              (literal = w.shown.toList ↔ Script.Kept w.shown.toList) ∧
              (f.type = .date ∨ f.type = .email → Script.Kept w.shown.toList)) s.dataFields definitions := by
  obtain ⟨t, rest, ht, rfl⟩ := Script.script_eq_ok h
  obtain ⟨columns, hcolumns, hall⟩ := Script.columns_of_table ht
  have hvalues : ∀ c ∈ t.columns, ∀ d ∈ c.default?, Script.IsValue d := by
    rw [hall]
    refine List.forall_mem_cons.2 ⟨by simp [Table.identityColumn], ?_⟩
    exact ((List.forall₂_and_left _ _).1 (hcolumns.flip.imp (fun _ _ hc => ⟨Script.isValue_of_column hc, hc⟩))).1
  refine ⟨_, rfl, (Script.columnTokens Table.identityColumn).map Token.relaid,
    columns.map (fun c => (Script.columnTokens c).map Token.relaid), (Script.keyTokens t).map Token.relaid, ?_, ?_⟩
  · rw [String.toList_append, Script.definitions_lay hvalues, Script.definitionTokens, hall]
    simp
  · rw [List.forall₂_map_right_iff]
    refine hcolumns.imp (fun f c hc => ?_)
    obtain ⟨meaning, hmeaning, rfl⟩ := Sequence.map_eq_ok_iff.1 hc
    refine ⟨rfl, fun v value htype hv hvalue => ?_⟩
    obtain ⟨w, rfl, hkept⟩ := Script.kept_of_coerce htype hvalue
    obtain rfl := Except.ok.inj (hmeaning.symm.trans (Field.coerced_eq_some_iff.2 ⟨v, hv, hvalue⟩))
    exact ⟨w, _, rfl, Script.textDefault?_columnTokens rfl (by simp [ColumnDefault.ofValue]),
      Script.relaid_eq_self_iff _, hkept⟩

def bookWith (title : String) : Schema :=
  { entityName := "Book", fields := [{ id := "1", name := "title", default? := some (title : Wording) }] }

/-- A quote in a default is kept. -/
theorem quote_kept : ∃ text body identity title key, (bookWith "it's").script = .ok text ∧
    text = "-- Book schema\n\n" ++ body ∧ Script.definitions body.toList = [identity, title, key] ∧
      Script.textDefault? title.tail = some "it's".toList := by
  have haccepted : (bookWith "it's").Accepted := (errors_eq_nil_iff defaultThreshold _).1 (by decide +kernel)
  obtain ⟨text, htext⟩ := haccepted.exists_script_eq_ok_iff.2 (by decide)
  obtain ⟨body, hbody, identity, definitions, key, hdefinitions, hfields⟩ := textDefault_eq_iff_kept htext
  have hone : (bookWith "it's").dataFields = [{ id := "1", name := "title", default? := some ("it's" : Wording) }] := by
    decide +kernel
  rw [hone] at hfields
  obtain ⟨title, _, ⟨-, htitle⟩, hnil, rfl⟩ := List.forall₂_cons_left_iff.1 hfields
  obtain rfl := List.forall₂_nil_left_iff.1 hnil
  obtain ⟨w, literal, hw, hliteral, hkept, -⟩ := htitle _ (.text ("it's" : Wording)) trivial rfl (by decide +kernel)
  obtain rfl := DefaultValue.text.inj hw
  rw [Wording.shown_ofText] at hkept
  exact ⟨text, body, identity, title, key, htext, hbody, hdefinitions,
    by rw [hliteral, hkept.2 (Script.kept_of_no_break (by simp [isBreak]))]⟩

/-- **A carriage return in a default becomes a line feed.** -/
theorem return_changed : Default.coerce .string "a\rb" = .ok (.text "a\rb") ∧
    (bookWith "a\rb").script.toOption.map
        (fun text => (Script.definitions text.toList).map (fun d => Script.textDefault? d.tail)) =
      some [none, some "a\nb".toList, none] := by
  decide +kernel

end Schema
end Scaffold
