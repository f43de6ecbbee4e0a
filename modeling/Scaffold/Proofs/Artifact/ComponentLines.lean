import Scaffold.Proofs.Artifact.ComponentText
import Scaffold.Proofs.Source.Outline
/-!
# Proofs.Artifact.ComponentLines — the lines of a component

A line of a component is always the same, or it is woven from pieces that are and from texts of the schema
(`Named.woven_lines`), or it names the address or the class of the entity.  So what a reader finds in the lines comes
from the sections that the operations of the schema switch on (`flatMap_componentLines`).
-/
namespace Scaffold

open Naming Source Text

namespace Source

def WovenFrom (pieces : List String) (s : String) : Prop := Woven (pieces.map String.toList) s.toList

theorem WovenFrom.piece {pieces : List String} {p : String} (h : p ∈ pieces) : WovenFrom pieces p :=
  Woven.of_mem (List.mem_map_of_mem h)

theorem toList_literal_between (a : String) (w : Wording) (b : String) :
    (a ++ quoted w ++ b).toList = a.toList ++ literal w.signs ++ b.toList := by
  rw [String.toList_append, String.toList_append, quoted, String.toList_ofList]

theorem WovenFrom.literal {pieces : List String} {s q : String} (h : WovenFrom pieces s) (w : Wording)
    (hq : q ∈ pieces) : WovenFrom pieces (s ++ quoted w ++ q) := by
  rw [WovenFrom, toList_literal_between]
  exact Woven.append_literal h w.signs (List.mem_map_of_mem hq)

theorem map_toList_cons (l : List Char) (rest : List String) :
    (String.ofList l :: rest).map String.toList = l :: rest.map String.toList := by
  rw [List.map_cons, String.toList_ofList]

theorem literalChar_of_isPlain {c : Char} (h : IsPlain c) : literalChar c = [c] := by
  obtain ⟨hshown, hquote, hslash⟩ := h
  have hne : ∀ d : Char, d.toNat < 0x20 → c ≠ d := fun d hd heq => by
    have := hshown.1
    rw [heq] at this
    omega
  rw [literalChar, if_neg hquote, if_neg hslash, if_neg (hne _ (by decide)), if_neg (hne _ (by decide)),
    if_neg (hne _ (by decide)), if_neg (hne _ (by decide)), if_neg (hne _ (by decide)),
    if_pos (show 0x20 ≤ c.toNat ∧ c.toNat ≤ 0x7e from hshown)]

theorem flatMap_literalSign_of_isPlain {t : String} (h : ∀ c ∈ t.toList, IsPlain c) :
    (t : Wording).signs.flatMap literalSign = t.toList := by
  have hsigns : ∀ {l : List Char}, (∀ c ∈ l, IsPlain c) → (l.map Sign.char).flatMap literalSign = l := by
    intro l
    induction l with
    | nil => exact fun _ => rfl
    | cons c l ih =>
      intro h
      obtain ⟨hc, hl⟩ := List.forall_mem_cons.1 h
      rw [List.map_cons, List.flatMap_cons, literalSign, literalChar_of_isPlain hc, ih hl, List.singleton_append]
  exact hsigns h

theorem quoted_of_isPlain {t : String} (h : ∀ c ∈ t.toList, IsPlain c) : quoted t = "\"" ++ t ++ "\"" := by
  rw [← String.toList_inj, quoted, String.toList_ofList, literal, flatMap_literalSign_of_isPlain h,
    String.toList_append, String.toList_append]
  rfl

end Source

namespace Component

/-- **The pieces of the lines that hold texts of a schema.** -/
def pieces : List String :=
  ["  \x7b name: ", ", label: ",
   ", widget: \"text-input\" \x7d,", ", widget: \"number-input\" \x7d,", ", widget: \"checkbox\" \x7d,",
   ", widget: \"date-picker\" \x7d,", ", widget: \"email-input\" \x7d,", ", widget: \"textarea\" \x7d,",
   "  ", ": ", ",", ": true,", ": false,",
   "const NUMBER_FIELDS = [", ", ", "];", "const NUMBER_FIELDS = [];",
   "    <div className=", ">", "      <h2>\x7b", "\x7d</h2>", "\x7d",
   "        <label>\x7b", "        </label>",
   "          <input type=\"text\" name=", "          <input type=\"number\" name=",
   "          <input type=\"date\" name=", "          <input type=\"email\" name=",
   "          <input type=\"checkbox\" name=", "          <textarea name=", " value=\x7bform[", " checked=\x7bform[",
   "]\x7d onChange=\x7bhandleChange\x7d />", "]\x7d onChange=\x7bhandleChange\x7d required />"]

def addressPieces : List String := ["const API_URL = ", ";"]

def bareLines : List String :=
  ["import \x7b useEffect, useState \x7d from \"react\";", "", "const COLUMNS = [", "];", "const EMPTY_FORM = \x7b",
   "\x7d;", "  return (", "      \x7berror && <p className=\"error\">\x7berror\x7d</p>\x7d", "    </div>", "  );",
   "\x7d"]

def payloadBody : List String :=
  ["",
   "function toPayload(form) \x7b",
   "  const payload = \x7b\x7d;",
   "  for (const [key, value] of Object.entries(form)) \x7b",
   "    if (value === \"\") continue;",
   "    payload[key] = NUMBER_FIELDS.includes(key) ? Number(value) : value;",
   "  \x7d",
   "  return payload;",
   "\x7d",
   ""]

variable {α : Type}

def offered (b : Bool) (l : List α) : List α := if b then l else []

theorem flatMap_only (f : String → List α) (b : Bool) (l : List String) :
    (only b l).flatMap f = offered b (l.flatMap f) := by
  cases b <;> rfl

theorem mem_offered {a : α} {b : Bool} {l : List α} : a ∈ offered b l ↔ b = true ∧ a ∈ l := by
  cases b <;> simp [offered]

theorem offered_nil (b : Bool) : offered b ([] : List α) = [] := by
  cases b <;> rfl

end Component

open Component

namespace Field

theorem woven_listingLine (f : Field) : WovenFrom pieces f.listingLine := by
  have hline : f.listingLine = "  \x7b name: " ++ quoted f.name ++ ", label: " ++ quoted f.caption ++
      (", widget: \"" ++ (f.type.mapping.widget.name ++ "\" \x7d,")) :=
    String.append_assoc.trans String.append_assoc
  have hend : ", widget: \"" ++ (f.type.mapping.widget.name ++ "\" \x7d,") ∈ pieces := by
    cases f.type <;> simp [pieces, FieldType.mapping, Widget.name]
  rw [hline]
  exact ((WovenFrom.piece (by simp [pieces])).literal _ (by simp [pieces])).literal _ hend

theorem woven_formEntry {f : Field} {line : String} (h : f.formEntry = .ok line) : WovenFrom pieces line := by
  obtain ⟨v, hv, rfl⟩ := Sequence.map_eq_ok_iff.1 h
  have hfront : WovenFrom pieces "  " := WovenFrom.piece (by simp [pieces])
  rcases initialValue_cases hv with rfl | rfl | ⟨w, rfl⟩
  · have hline : "  " ++ quoted f.name ++ ": " ++ "true" ++ "," = "  " ++ quoted f.name ++ ": true," := by
      simp only [String.append_assoc]
      rfl
    rw [hline]
    exact hfront.literal _ (by simp [pieces])
  · have hline : "  " ++ quoted f.name ++ ": " ++ "false" ++ "," = "  " ++ quoted f.name ++ ": false," := by
      simp only [String.append_assoc]
      rfl
    rw [hline]
    exact hfront.literal _ (by simp [pieces])
  · exact (hfront.literal _ (by simp [pieces])).literal _ (by simp [pieces])

theorem woven_valueControl {head : String} (hhead : head ∈ pieces) (name : Wording) (required : Bool) :
    WovenFrom pieces (head ++ quoted name ++ " value=\x7bform[" ++ quoted name ++
      "]\x7d onChange=\x7bhandleChange\x7d" ++ (if required then " required" else "") ++ " />") := by
  have hend : "]\x7d onChange=\x7bhandleChange\x7d" ++ ((if required then " required" else "") ++ " />") ∈ pieces := by
    cases required <;> simp [pieces]
  rw [String.append_assoc, String.append_assoc]
  exact ((WovenFrom.piece hhead).literal _ (by simp [pieces])).literal _ hend

theorem woven_controlLine (f : Field) : WovenFrom pieces f.controlLine := by
  have hinput : f.type ≠ .boolean → f.type ≠ .text →
      "          <input type=\"" ++ f.type.mapping.inputType ++ "\" name=" ∈ pieces := by
    cases f.type with
    | boolean => exact fun h => absurd rfl h
    | text => exact fun _ h => absurd rfl h
    | _ => exact fun _ _ => by simp [pieces, FieldType.mapping]
  unfold controlLine
  cases htype : f.type with
  | boolean => exact ((WovenFrom.piece (by simp [pieces])).literal _ (by simp [pieces])).literal _ (by simp [pieces])
  | text => exact woven_valueControl (by simp [pieces]) f.name f.required
  | _ => exact woven_valueControl (htype ▸ hinput (by simp [htype]) (by simp [htype])) f.name f.required

theorem woven_widgetLines (f : Field) : ∀ l ∈ f.widgetLines, WovenFrom pieces l := by
  refine List.forall_mem_cons.2 ⟨?_, List.forall_mem_cons.2 ⟨f.woven_controlLine, List.forall_mem_singleton.2 ?_⟩⟩
  · exact (WovenFrom.piece (by simp [pieces])).literal _ (by simp [pieces])
  · exact WovenFrom.piece (by simp [pieces])

end Field

namespace Schema

def addressLine (s : Schema) : String := "const API_URL = \"/" ++ s.pathSegment ++ "\";"

def exportLine (s : Schema) : String := "export default function " ++ s.className ++ "List() \x7b"

def numberLine (s : Schema) : String := "const NUMBER_FIELDS = [" ++ ", ".intercalate s.numericNames ++ "];"

def frameLine (s : Schema) : String := "    <div className=\"" ++ s.pathSegment ++ "-list\">"

def headingLine (s : Schema) : String := "      <h2>\x7b" ++ quoted s.className ++ "\x7d</h2>"

/-- **The lines that hold texts of the schema**, with the entries of the empty form. -/
def wovenLines (s : Schema) (entries : List String) : List String :=
  s.fields.map Field.listingLine ++ entries ++ [s.numberLine, s.frameLine, s.headingLine] ++
    s.dataFields.flatMap Field.widgetLines

theorem woven_numberLine (s : Schema) : WovenFrom pieces s.numberLine := by
  have hnames : s.numericNames.map String.toList =
      ((s.dataFields.filter (fun f => f.type = .number)).map (fun f => f.name.signs)).map literal := by
    rw [numericNames, List.map_map, List.map_map]
    exact List.map_congr_left (fun f _ => String.toList_ofList)
  have htext : s.numberLine.toList = "const NUMBER_FIELDS = [".toList ++ join ", ".toList
      (((s.dataFields.filter (fun f => f.type = .number)).map (fun f => f.name.signs)).map literal) ++ "];".toList := by
    have happend : ∀ a b c : String, (a ++ b ++ c).toList = a.toList ++ b.toList ++ c.toList := fun a b c => by
      rw [String.toList_append, String.toList_append]
    rw [← hnames, ← intercalate_eq_join, ← String.toList_intercalate]
    exact happend _ _ _
  rw [WovenFrom, htext]
  cases (s.dataFields.filter (fun f => f.type = .number)).map (fun f => f.name.signs) with
  | nil =>
    have hempty :
        "const NUMBER_FIELDS = [".toList ++ join ", ".toList (([] : List (List Sign)).map literal) ++ "];".toList =
          "const NUMBER_FIELDS = [];".toList := by
      repeat rw [String.toList_ofList]
      rfl
    rw [hempty]
    exact WovenFrom.piece (by simp [pieces])
  | cons w ws =>
    have hfront : WovenFrom pieces "const NUMBER_FIELDS = [" := WovenFrom.piece (by simp [pieces])
    exact Woven.append_join (List.mem_map_of_mem (by simp [pieces])) (List.mem_map_of_mem (by simp [pieces])) hfront w

theorem isPlain_of_mem_pathSegment {s : Schema} (h : s.entityName.In identifiers) :
    ∀ c ∈ s.pathSegment.toList, IsPlain c := fun c hc => by
  rcases part_or_hyphen_of_mem_pathSegment h c hc with hpart | rfl
  · exact isPlain_of_part hpart
  · decide

theorem append_quoted (before after : String) {front back : String} (hfront : before = front ++ "\"")
    (hback : after = "\"" ++ back)
    {t : String} (h : ∀ c ∈ t.toList, IsPlain c) : before ++ t ++ after = front ++ quoted t ++ back := by
  rw [quoted_of_isPlain h, hfront, hback]
  simp only [String.append_assoc]

theorem isPlain_of_mem_collectionPath {s : Schema} (h : s.entityName.In identifiers) :
    ∀ c ∈ s.collectionPath.toList, IsPlain c := by
  rw [collectionPath, String.toList_append]
  exact List.forall_mem_append.2 ⟨List.forall_mem_singleton.2 (by decide), isPlain_of_mem_pathSegment h⟩

theorem addressLine_eq {s : Schema} (h : s.Named) :
    s.addressLine = "const API_URL = " ++ quoted s.collectionPath ++ ";" := by
  rw [← append_quoted "const API_URL = \"" "\";" (by simp) (by simp)
    (isPlain_of_mem_collectionPath h.entityName_in)]
  have hassoc : "const API_URL = \"" ++ "/" ++ s.pathSegment = "const API_URL = \"" ++ ("/" ++ s.pathSegment) :=
    String.append_assoc
  exact congrArg (fun t => t ++ "\";") hassoc

theorem frameLine_eq {s : Schema} (h : s.Named) :
    s.frameLine = "    <div className=" ++ quoted (s.pathSegment ++ "-list" : String) ++ ">" := by
  have hlist : "-list".toList.all (fun c => decide (IsPlain c)) = true := by decide +kernel
  have hplain : ∀ c ∈ (s.pathSegment ++ "-list").toList, IsPlain c := by
    rw [String.toList_append]
    exact List.forall_mem_append.2 ⟨isPlain_of_mem_pathSegment h.entityName_in,
      fun c hc => of_decide_eq_true (List.all_eq_true.1 hlist c hc)⟩
  rw [← append_quoted "    <div className=\"" "\">" (by simp) (by simp) hplain]
  have hassoc : "    <div className=\"" ++ s.pathSegment ++ ("-list" ++ "\">") =
      "    <div className=\"" ++ s.pathSegment ++ "-list" ++ "\">" := String.append_assoc.symm
  exact hassoc.trans (congrArg (fun t => t ++ "\">") String.append_assoc)

theorem Named.woven_addressLine {s : Schema} (h : s.Named) : WovenFrom addressPieces s.addressLine := by
  rw [addressLine_eq h]
  exact (WovenFrom.piece (by simp [addressPieces])).literal _ (by simp [addressPieces])

theorem woven_headingLine (s : Schema) : WovenFrom pieces s.headingLine :=
  (WovenFrom.piece (by simp [pieces])).literal _ (by simp [pieces])

/-- What holds of the line of the frame and of each line woven from the pieces holds of the woven lines. -/
theorem forall_mem_wovenLines {P : String → Prop} {s : Schema} (hwoven : ∀ l, WovenFrom pieces l → P l)
    (hframe : P s.frameLine) {entries : List String} (hentries : ∀ l ∈ entries, ∃ f : Field, f.formEntry = .ok l) :
    ∀ l ∈ s.wovenLines entries, P l := by
  unfold wovenLines
  refine List.forall_mem_append.2 ⟨List.forall_mem_append.2 ⟨List.forall_mem_append.2 ⟨?_, fun l hl => ?_⟩, ?_⟩,
    fun l hl => ?_⟩
  · exact List.forall_mem_map.2 (fun f _ => hwoven _ f.woven_listingLine)
  · obtain ⟨f, hline⟩ := hentries l hl
    exact hwoven l (Field.woven_formEntry hline)
  · exact List.forall_mem_cons.2 ⟨hwoven _ s.woven_numberLine, List.forall_mem_cons.2 ⟨hframe,
      List.forall_mem_singleton.2 (hwoven _ s.woven_headingLine)⟩⟩
  · obtain ⟨f, -, hl⟩ := List.mem_flatMap.1 hl
    exact hwoven l (f.woven_widgetLines l hl)

theorem Named.woven_lines {s : Schema} (h : s.Named) {entries : List String}
    (hentries : ∀ l ∈ entries, ∃ f : Field, f.formEntry = .ok l) : ∀ l ∈ s.wovenLines entries, WovenFrom pieces l := by
  refine forall_mem_wovenLines (fun _ hl => hl) ?_ hentries
  rw [frameLine_eq h]
  exact (WovenFrom.piece (by simp [pieces])).literal _ (by simp [pieces])

theorem exists_componentLines_cons (s : Schema) (entries : List String) : ∃ more, s.componentLines entries =
    "import \x7b useEffect, useState \x7d from \"react\";" :: "" :: s.addressLine :: more := by
  unfold componentLines addressLine
  simp only [List.append_assoc, List.cons_append]
  exact ⟨_, rfl⟩

theorem componentLines_ne_nil (s : Schema) (entries : List String) : s.componentLines entries ≠ [] := by
  obtain ⟨more, hmore⟩ := s.exists_componentLines_cons entries
  rw [hmore]
  exact List.cons_ne_nil _ _

/-! ## Sections -/

variable {α : Type}

/-- **What is found in the lines of a component**, if it is not in the lines that are woven and not in the bare ones. -/
theorem flatMap_componentLines {f : String → List α} {s : Schema} {entries : List String}
    (hwoven : ∀ l ∈ s.wovenLines entries, f l = []) (hbare : ∀ l ∈ bareLines, f l = []) :
    (s.componentLines entries).flatMap f = f s.addressLine ++ offered s.operations.hasForm (payloadBody.flatMap f) ++
      formatLines.flatMap f ++ f s.exportLine ++ (stateLines s.operations).flatMap f ++
      offered s.operations.read (loadLines.flatMap f) ++
      offered s.operations.hasForm ((submitLines s.operations).flatMap f) ++
      offered s.operations.update (editLines.flatMap f) ++ offered s.operations.delete (deleteLines.flatMap f) ++
      (tableLines s.operations).flatMap f ++ offered s.operations.hasForm ((formLines s.operations []).flatMap f) := by
  simp only [wovenLines, List.forall_mem_append, List.forall_mem_cons] at hwoven
  simp only [bareLines, List.forall_mem_cons] at hbare
  obtain ⟨⟨⟨hlisting, hentries⟩, hnumber, hframe, hheading, -⟩, hwidgets⟩ := hwoven
  obtain ⟨himport, hempty, hcolumns, hend, hform, hclose, hreturn, herror, hframeEnd, hparen, hbrace, -⟩ := hbare
  have hlisting : (s.fields.map Field.listingLine).flatMap f = [] := List.flatMap_eq_nil_iff.2 hlisting
  have hentries : entries.flatMap f = [] := List.flatMap_eq_nil_iff.2 hentries
  have hwidgets : (s.dataFields.flatMap Field.widgetLines).flatMap f = [] := List.flatMap_eq_nil_iff.2 hwidgets
  have hpayload : (payloadLines s.numericNames).flatMap f = payloadBody.flatMap f := by
    have hlines : payloadLines s.numericNames = s.numberLine :: payloadBody := rfl
    rw [hlines, List.flatMap_cons, hnumber, List.nil_append]
  have hcontrols : (formLines s.operations (s.dataFields.flatMap Field.widgetLines)).flatMap f =
      (formLines s.operations []).flatMap f := by
    simp only [formLines, List.flatMap_append, hwidgets, List.flatMap_nil]
  unfold frameLine at hframe
  unfold headingLine at hheading
  unfold componentLines addressLine exportLine
  simp only [List.flatMap_append, List.flatMap_cons, List.flatMap_nil, flatMap_only, himport, hempty, hcolumns, hend,
    hform, hclose, hreturn, herror, hframeEnd, hparen, hbrace, hlisting, hentries, hframe, hheading, hpayload,
    hcontrols, List.nil_append, List.append_nil, List.append_assoc]

end Schema

end Scaffold
