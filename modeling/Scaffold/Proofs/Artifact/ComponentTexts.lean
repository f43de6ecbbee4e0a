import Scaffold.Proofs.Artifact.Columns
import Scaffold.Proofs.Artifact.ComponentPrint
/-!
# Proofs.Artifact.ComponentTexts — the places of texts in a component

Names, labels and defaults stand in a component only as literals.  Each field has one line among the columns, one in the
empty form and three for its control, whose tokens are always the same but for the literals, and these denote its name,
its caption and its default (`Schema.shows_of_component`).
-/
namespace Scaffold

open Naming Source Text

namespace Source

/-- **The token is a literal of the text**: in a component it denotes the 16-bit units of the text. -/
def Token.IsLiteral (w : Wording) (t : Token) : Prop :=
  ∃ l, t = .quoted '"' l ∧ decode .component l = some (w.points.flatMap unitsOf)

theorem isLiteral_literal (w : Wording) : Token.IsLiteral w (.quoted '"' (w.signs.flatMap literalSign)) :=
  ⟨_, rfl, decode_literal .component w.signs⟩

def Whole (p : List Char) : Prop := (run .escaped .none p).2 = .none

instance (p : List Char) : Decidable (Whole p) := inferInstanceAs (Decidable (_ = _))

theorem tokens_eq_of_whole {p : List Char} (h : Whole p) : tokens .escaped p = (run .escaped .none p).1 :=
  (Closes.of_run (Prod.ext rfl h)).reads.tokens_eq

theorem whole_of_run {p : List Char} {ts : List Token} (h : run .escaped .none p = (ts, .none)) :
    Whole p ∧ tokens .escaped p = ts :=
  ⟨congrArg Prod.snd h, (Closes.of_run h).reads.tokens_eq⟩

theorem tokens_weave {p : List Char} {rest : List (List Sign × List Char)} (hp : Whole p) (h : ∀ r ∈ rest, Whole r.2) :
    tokens .escaped (weave p rest) = tokens .escaped p ++
      rest.flatMap (fun r => .quoted '"' (r.1.flatMap literalSign) :: tokens .escaped r.2) := by
  have hsilent : ∀ {q : List Char}, Whole q → Silent [] q := fun hq => ⟨hq, List.forall_mem_nil _⟩
  rw [(closes_weave (hsilent hp) (fun r hr => hsilent (h r hr))).reads.tokens_eq, tokens_eq_of_whole hp]
  refine congrArg _ ?_
  rw [List.flatMap_def, List.flatMap_def, List.map_congr_left (fun r hr => ?_)]
  rw [tokens_eq_of_whole (h r hr)]

end Source

namespace Field

/-! ## The columns -/

def listingEnd (f : Field) : String := ", widget: \"" ++ (f.type.mapping.widget.name ++ "\" \x7d,")

theorem listingEnd_mem_pieces (f : Field) : f.listingEnd ∈ Component.pieces := by
  unfold listingEnd
  cases f.type <;> simp [Component.pieces, FieldType.mapping, Widget.name]

theorem listingLine_eq (f : Field) : f.listingLine.toList = weave "  \x7b name: ".toList
    [(f.name.signs, ", label: ".toList), (f.caption.signs, f.listingEnd.toList)] := by
  have hline : f.listingLine = "  \x7b name: " ++ quoted f.name ++ ", label: " ++ quoted f.caption ++ f.listingEnd :=
    String.append_assoc.trans String.append_assoc
  rw [hline, toList_literal_between, toList_literal_between]
  simp [weave]

def listingTokens (f : Field) (name label : Token) : List Token :=
  [.mark '\x7b', .word "name".toList, .mark ':', name, .mark ',', .word "label".toList, .mark ':', label, .mark ',',
    .word "widget".toList, .mark ':', .quoted '"' f.type.mapping.widget.name.toList, .mark '\x7d', .mark ',']

def Listed (f : Field) (line : List Char) : Prop :=
  ∃ name label, name.IsLiteral f.name ∧ label.IsLiteral f.caption ∧ tokens .escaped line = f.listingTokens name label

end Field

namespace Component

theorem whole_of_mem_pieces {p : String} (h : p ∈ pieces) : Whole p.toList :=
  (silent_pieces p.toList (List.mem_map_of_mem h)).1

end Component

namespace Field

open Component

theorem listed_listingLine (f : Field) : f.Listed f.listingLine.toList := by
  have hfront : tokens .escaped "  \x7b name: ".toList = [.mark '\x7b', .word "name".toList, .mark ':'] := by
    decide +kernel
  have hlabel : tokens .escaped ", label: ".toList = [.mark ',', .word "label".toList, .mark ':'] := by decide +kernel
  have hend : tokens .escaped f.listingEnd.toList = [.mark ',', .word "widget".toList, .mark ':',
      .quoted '"' f.type.mapping.widget.name.toList, .mark '\x7d', .mark ','] := by
    unfold listingEnd
    cases f.type <;> decide +kernel
  refine ⟨_, _, isLiteral_literal f.name, isLiteral_literal f.caption, ?_⟩
  rw [listingLine_eq, tokens_weave (whole_of_mem_pieces (by simp [pieces])), hfront]
  · simp only [List.flatMap_cons, List.flatMap_nil, hlabel, hend, listingTokens, List.cons_append, List.nil_append,
      List.append_nil]
  · simp only [List.forall_mem_cons, List.not_mem_nil, false_implies, implies_true, and_true]
    exact ⟨whole_of_mem_pieces (by simp [pieces]), whole_of_mem_pieces f.listingEnd_mem_pieces⟩

/-! ## The empty form -/

def entered (f : Field) : Wording := f.default?.getD ""

/-- **The line enters the field**, under its name: a truth value, or the text of the default. -/
def Entered (f : Field) (line : List Char) : Prop :=
  ∃ name value, name.IsLiteral f.name ∧ tokens .escaped line = [name, .mark ':', value, .mark ','] ∧
    if f.type = .boolean then value = .word "true".toList ∨ value = .word "false".toList else value.IsLiteral f.entered

theorem formEntry_of_ne_boolean {f : Field} (h : f.type ≠ .boolean) :
    f.formEntry = .ok ("  " ++ quoted f.name ++ ": " ++ quoted f.entered ++ ",") := by
  rw [formEntry, initialValue, if_neg h]
  rfl

theorem entryLine_eq (f : Field) : ("  " ++ quoted f.name ++ ": " ++ quoted f.entered ++ ",").toList =
    weave "  ".toList [(f.name.signs, ": ".toList), (f.entered.signs, ",".toList)] := by
  rw [toList_literal_between, toList_literal_between]
  simp [weave]

theorem initialValue_of_boolean {f : Field} (h : f.type = .boolean) {v : String} (hv : f.initialValue = .ok v) :
    v = "true" ∨ v = "false" := by
  rw [initialValue, if_pos h] at hv
  split at hv
  · cases hv
  · exact .inl (Except.ok.inj hv).symm
  · exact .inr (Except.ok.inj hv).symm

theorem entered_of_boolean {f : Field} (htype : f.type = .boolean) {line : String} (h : f.formEntry = .ok line) :
    f.Entered line.toList := by
  obtain ⟨v, hv, rfl⟩ := Sequence.map_eq_ok_iff.1 h
  have hflag := initialValue_of_boolean htype hv
  -- a truth value is no literal, it belongs to the piece behind the name
  have hline : ("  " ++ quoted f.name ++ ": " ++ v ++ ",").toList =
      weave "  ".toList [(f.name.signs, (": " ++ v ++ ",").toList)] := by
    have hassoc : "  " ++ quoted f.name ++ ": " ++ v ++ "," = "  " ++ quoted f.name ++ (": " ++ v ++ ",") := by
      simp only [String.append_assoc]
    rw [hassoc, toList_literal_between]
    simp [weave]
  have hpiece : Whole (": " ++ v ++ ",").toList ∧
      tokens .escaped (": " ++ v ++ ",").toList = [.mark ':', .word v.toList, .mark ','] := by
    rcases hflag with rfl | rfl <;> decide +kernel
  have hfront : tokens .escaped "  ".toList = [] := rfl
  refine ⟨_, .word v.toList, isLiteral_literal f.name, ?_, ?_⟩
  · rw [hline, tokens_weave (by decide) (List.forall_mem_singleton.2 hpiece.1), hfront, List.flatMap_singleton,
      hpiece.2]
    rfl
  · rw [if_pos htype]
    rcases hflag with rfl | rfl
    · exact .inl rfl
    · exact .inr rfl

theorem entered_of_ne_boolean {f : Field} (htype : f.type ≠ .boolean) {line : String} (h : f.formEntry = .ok line) :
    f.Entered line.toList := by
  obtain rfl := Except.ok.inj ((formEntry_of_ne_boolean htype).symm.trans h)
  have hfront : tokens .escaped "  ".toList = [] := rfl
  have hcolon : tokens .escaped ": ".toList = [.mark ':'] := rfl
  have hcomma : tokens .escaped ",".toList = [.mark ','] := rfl
  have hvalue : Token.IsLiteral f.entered (.quoted '"' (f.entered.signs.flatMap literalSign)) :=
    isLiteral_literal f.entered
  refine ⟨_, _, isLiteral_literal f.name, ?_, by rwa [if_neg htype]⟩
  rw [entryLine_eq, tokens_weave (by decide), hfront]
  · simp only [List.flatMap_cons, List.flatMap_nil, hcolon, hcomma, List.cons_append, List.nil_append]
  · have hwhole : Whole ": ".toList ∧ Whole ",".toList := by decide
    exact List.forall_mem_cons.2 ⟨hwhole.1, List.forall_mem_singleton.2 hwhole.2⟩

theorem entered_formEntry {f : Field} {line : String} (h : f.formEntry = .ok line) : f.Entered line.toList := by
  by_cases htype : f.type = .boolean
  · exact entered_of_boolean htype h
  · exact entered_of_ne_boolean htype h

/-! ## The controls

The line of a control is woven around the name, which stands in it twice: as its own and as its key in the form. -/

def controlFront : FieldType → String
  | .boolean => "          <input type=\"checkbox\" name="
  | .text => "          <textarea name="
  | t => "          <input type=\"" ++ t.mapping.inputType ++ "\" name="

def controlMiddle : FieldType → String
  | .boolean => " checked=\x7bform["
  | _ => " value=\x7bform["

def controlBack (type : FieldType) (required : Bool) : String :=
  match type with
  | .boolean => "]\x7d onChange=\x7bhandleChange\x7d />"
  | _ => "]\x7d onChange=\x7bhandleChange\x7d" ++ ((if required then " required" else "") ++ " />")

theorem controlLine_eq (f : Field) : f.controlLine.toList = weave (controlFront f.type).toList
    [(f.name.signs, (controlMiddle f.type).toList), (f.name.signs, (controlBack f.type f.required).toList)] := by
  have hline : f.controlLine =
      controlFront f.type ++ quoted f.name ++ controlMiddle f.type ++ quoted f.name ++
      controlBack f.type f.required := by
    unfold controlLine
    cases f.type with
    | boolean => rfl
    | _ => exact String.append_assoc.trans String.append_assoc
  rw [hline, toList_literal_between, toList_literal_between]
  simp [weave]

def controlHead : FieldType → List Token
  | .text => [.word "textarea".toList]
  | t => [.word "input".toList, .word "type".toList, .mark '=', .quoted '"' t.mapping.inputType.toList]

def controlSlot : FieldType → List Char
  | .boolean => "checked".toList
  | _ => "value".toList

def controlTokens (f : Field) (name : Token) : List Token :=
  .mark '<' :: controlHead f.type ++ [.word "name".toList, .mark '=', name, .word (controlSlot f.type), .mark '=',
    .mark '\x7b', .word "form".toList, .mark '[', name, .mark ']', .mark '\x7d', .word "onChange".toList, .mark '=',
    .mark '\x7b', .word "handleChange".toList, .mark '\x7d'] ++
    (if f.required = true ∧ f.type ≠ .boolean then [.word "required".toList] else []) ++ [.mark '/', .mark '>']

theorem run_controlFront (type : FieldType) : run .escaped .none (controlFront type).toList =
    (.mark '<' :: controlHead type ++ [.word "name".toList, .mark '='], .none) := by
  unfold controlFront controlHead
  cases type
  all_goals
    simp only [String.toList_append, FieldType.mapping]
    repeat rw [String.toList_ofList]
    decide +kernel

theorem run_controlMiddle (type : FieldType) : run .escaped .none (controlMiddle type).toList =
    ([.word (controlSlot type), .mark '=', .mark '\x7b', .word "form".toList, .mark '['], .none) := by
  cases type <;> decide +kernel

theorem run_controlBack (type : FieldType) (required : Bool) : run .escaped .none (controlBack type required).toList =
    ([.mark ']', .mark '\x7d', .word "onChange".toList, .mark '=', .mark '\x7b', .word "handleChange".toList,
      .mark '\x7d'] ++ (if required = true ∧ type ≠ .boolean then [.word "required".toList] else []) ++
      [.mark '/', .mark '>'], .none) := by
  by_cases htype : type = .boolean
  · subst htype
    have hoptional : ¬ (required = true ∧ FieldType.boolean ≠ .boolean) := fun h => h.2 rfl
    rw [if_neg hoptional, controlBack]
    repeat rw [String.toList_ofList]
    decide +kernel
  · have hback : controlBack type required =
        "]\x7d onChange=\x7bhandleChange\x7d" ++ ((if required then " required" else "") ++ " />") := by
      unfold controlBack
      split
      · exact absurd rfl htype
      · rfl
    rw [hback]
    simp only [htype, ne_eq, not_false_eq_true, and_true]
    cases required
    all_goals
      simp only [Bool.false_eq_true, if_true, if_false, String.toList_append, -String.reduceToList]
      repeat rw [String.toList_ofList]
      decide +kernel

def Controlled (f : Field) (lines : List (List Char)) : Prop :=
  ∃ label control name caption, lines = [label, control, "        </label>".toList] ∧
    name.IsLiteral f.name ∧ caption.IsLiteral f.caption ∧
    tokens .escaped label = [.mark '<', .word "label".toList, .mark '>', .mark '\x7b', caption, .mark '\x7d'] ∧
    tokens .escaped control = f.controlTokens name

theorem labelLine_eq (f : Field) : ("        <label>\x7b" ++ quoted f.caption ++ "\x7d").toList =
    weave "        <label>\x7b".toList [(f.caption.signs, "\x7d".toList)] := by
  rw [toList_literal_between]
  simp [weave]

theorem controlled_widgetLines (f : Field) : f.Controlled (f.widgetLines.map String.toList) := by
  refine ⟨_, _, _, _, rfl, isLiteral_literal f.name, isLiteral_literal f.caption, ?_, ?_⟩
  · have hfront : tokens .escaped "        <label>\x7b".toList =
        [.mark '<', .word "label".toList, .mark '>', .mark '\x7b'] := by decide +kernel
    have hback : tokens .escaped "\x7d".toList = [.mark '\x7d'] := rfl
    have hend : Whole "\x7d".toList := by decide
    rw [labelLine_eq, tokens_weave (whole_of_mem_pieces (by simp [pieces])) (List.forall_mem_singleton.2 hend), hfront,
      List.flatMap_singleton, hback]
    rfl
  · have hfront := whole_of_run (run_controlFront f.type)
    have hmiddle := whole_of_run (run_controlMiddle f.type)
    have hback := whole_of_run (run_controlBack f.type f.required)
    rw [controlLine_eq, tokens_weave hfront.1
      (List.forall_mem_cons.2 ⟨hmiddle.1, List.forall_mem_singleton.2 hback.1⟩)]
    simp only [List.flatMap_cons, List.flatMap_nil, hfront.2, hmiddle.2, hback.2, controlTokens, List.cons_append,
      List.nil_append, List.append_nil, List.append_assoc]

end Field

namespace Component

/-- **The line tells the numeric fields**, by their names. -/
def TellsNumbers (names : List Wording) (line : List Char) : Prop :=
  ∃ literals, List.Forall₂ Token.IsLiteral names literals ∧ tokens .escaped line =
    [.word "const".toList, .word "NUMBER_FIELDS".toList, .mark '=', .mark '['] ++
      join [.mark ','] (literals.map (fun t => [t])) ++ [.mark ']', .mark ';']

theorem tellsNumbers_intercalate (names : List Wording) :
    TellsNumbers names ("const NUMBER_FIELDS = [" ++ ", ".intercalate (names.map quoted) ++ "];").toList := by
  have hfront : Closes .escaped "const NUMBER_FIELDS = [".toList
      [.word "const".toList, .word "NUMBER_FIELDS".toList, .mark '=', .mark '['] := Closes.of_run (by decide +kernel)
  have hsep : Closes .escaped ", ".toList [.mark ','] := Closes.of_run rfl
  have hback : Closes .escaped "];".toList [.mark ']', .mark ';'] := Closes.of_run rfl
  have hreads : List.Forall₂ (Reads .escaped) ((names.map quoted).map String.toList)
      ((names.map (fun w => .quoted '"' (w.signs.flatMap literalSign))).map (fun t => [t])) := by
    rw [List.map_map, List.map_map, List.forall₂_map_left_iff, List.forall₂_map_right_iff, List.forall₂_same]
    exact fun w _ => Field.reads_quoted w
  have hline :=
    hfront.append ((reads_join hsep (fun rest => separated_cons_append rfl _ rest) hreads).append_closes hback
    (fun rest => separated_cons_append rfl _ rest))
  refine ⟨names.map (fun w => .quoted '"' (w.signs.flatMap literalSign)), ?_, ?_⟩
  · rw [List.forall₂_map_right_iff, List.forall₂_same]
    exact fun w _ => isLiteral_literal w
  · have htext : ∀ a b c : String, (a ++ b ++ c).toList = a.toList ++ (b.toList ++ c.toList) := fun a b c => by
      rw [String.toList_append, String.toList_append, List.append_assoc]
    rw [htext, String.toList_intercalate, intercalate_eq_join, List.append_assoc]
    exact hline.reads.tokens_eq

end Component

namespace Schema

open Component

variable {s t : Schema}

def numbers (s : Schema) : List Wording := (s.dataFields.filter (fun f => f.type = .number)).map Field.name

theorem tellsNumbers_numberLine (s : Schema) : TellsNumbers s.numbers s.numberLine.toList := by
  have hnames : s.numericNames = s.numbers.map quoted := by
    rw [numbers, List.map_map]
    rfl
  have hline : s.numberLine = "const NUMBER_FIELDS = [" ++ ", ".intercalate (s.numbers.map quoted) ++ "];" :=
    congrArg (fun names => "const NUMBER_FIELDS = [" ++ ", ".intercalate names ++ "];") hnames
  exact hline ▸ tellsNumbers_intercalate s.numbers

/-- **When there is a component**: if there is a form, the default of every truth value has to be accepted. -/
theorem exists_component_eq_ok_iff_flags (s : Schema) : (∃ text, s.component = .ok text) ↔
    (s.operations.hasForm = true → ∀ f ∈ s.dataFields, f.type = .boolean → ∃ v, f.coerced = .ok v) := by
  have hentry : ∀ f : Field, (∃ line, f.formEntry = .ok line) ↔ (f.type = .boolean → ∃ v, f.coerced = .ok v) := by
    intro f
    by_cases htype : f.type = .boolean
    · constructor
      · rintro ⟨line, hline⟩ -
        obtain ⟨v, hv, -⟩ := Sequence.map_eq_ok_iff.1 hline
        rw [Field.initialValue, if_pos htype] at hv
        cases hcoerced : f.coerced with
        | ok v => exact ⟨v, rfl⟩
        | error e => simp [hcoerced] at hv
      · exact fun h => Field.exists_formEntry_eq_ok (h htype)
    · exact iff_of_true ⟨_, Field.formEntry_of_ne_boolean htype⟩ (fun h => absurd h htype)
  have hcomponent : (∃ text, s.component = .ok text) ↔ ∃ entries, s.formEntries = .ok entries := by
    simp only [component, Sequence.map_eq_ok_iff]
    exact ⟨fun ⟨_, entries, h, _⟩ => ⟨entries, h⟩, fun ⟨entries, h⟩ => ⟨_, entries, h, rfl⟩⟩
  rw [hcomponent, formEntries]
  split
  · rename_i hform
    simp only [Sequence.exists_mapM_eq_ok_iff, hentry, hform, true_implies]
  · rename_i hform
    exact iff_of_true ⟨[], rfl⟩ (fun h => absurd h hform)

/-! ## Sections -/

theorem form_between (h : s.operations.hasForm = true) {entries : List String} (hentries : s.formEntries = .ok entries)
    (rest : List (List Char)) : between "const EMPTY_FORM = \x7b" "\x7d;"
      ((s.componentLines entries).map String.toList ++ rest) = entries.map String.toList := by
  obtain ⟨behind, hsplit⟩ := componentLines_eq h entries
  have hall : List.Forall₂ (fun f line => f.formEntry = .ok line) s.dataFields entries := by
    rw [formEntries, if_pos h] at hentries
    exact (Sequence.mapM_eq_ok_iff _ _ _).1 hentries
  simp only [hsplit, List.append_assoc, List.cons_append, List.nil_append]
  exact between_map_toList s.formLine_not_mem (formEnd_not_mem hall) behind rest

theorem componentLines_form (h : s.operations.hasForm = true) (entries : List String) : ∃ before after,
    s.componentLines entries = before ++ "      <form onSubmit=\x7bhandleSubmit\x7d>" ::
      (s.dataFields.flatMap Field.widgetLines ++ (submitControl s.operations ++ "      </form>" :: after)) := by
  obtain ⟨front, back, hlines⟩ : ∃ front back, s.componentLines entries = front ++
      only s.operations.hasForm (formLines s.operations (s.dataFields.flatMap Field.widgetLines)) ++ back := ⟨_, _, rfl⟩
  refine ⟨front ++ only (!s.operations.create) ["      \x7beditingId !== null && ("],
    only (!s.operations.create) ["      )\x7d"] ++ back, ?_⟩
  rw [hlines, only, if_pos h, formLines]
  simp only [List.append_assoc, List.cons_append, List.nil_append]

theorem numberLine_mem (h : s.operations.hasForm = true) (entries : List String) :
    s.numberLine ∈ s.componentLines entries := by
  have hpayload : s.numberLine ∈ payloadLines s.numericNames := .head _
  unfold componentLines
  simp only [only, if_pos h, List.mem_append, hpayload, or_true, true_or]

/-! ## The component -/

/-- **The component shows the schema, its texts in literals**: it is ASCII, has one line for each column and each entry
of the empty form and three for each control, and tells which fields hold numbers. -/
structure Shows (s : Schema) (text : String) : Prop where
  ascii : ∀ c ∈ text.toList, c.toNat < 128
  columns : List.Forall₂ Field.Listed s.fields (between "const COLUMNS = [" "];" (textLines text))
  entries : s.operations.hasForm = true → List.Forall₂ Field.Entered s.dataFields (emptyForm text)
  numbers : s.operations.hasForm = true → ∃ line ∈ textLines text, TellsNumbers s.numbers line
  controls : s.operations.hasForm = true → ∃ before controls after,
    textLines text = before ++ "      <form onSubmit=\x7bhandleSubmit\x7d>".toList ::
      (controls.flatten ++ (submitControl s.operations).map String.toList ++ "      </form>".toList :: after) ∧
    List.Forall₂ Field.Controlled s.dataFields controls

theorem shows_of_component (hentity : s.entityName.In identifiers) {text : String} (htext : s.component = .ok text) :
    s.Shows text := by
  obtain ⟨entries, hentries, hascii, hlines⟩ := component_read_as_lines hentity htext
  refine ⟨hascii, ?_, fun hform => ?_, fun hform => ?_, fun hform => ?_⟩
  · rw [hlines, columns_between, List.map_map, List.forall₂_map_right_iff, List.forall₂_same]
    exact fun f _ => f.listed_listingLine
  · have hall : List.Forall₂ (fun f line => f.formEntry = .ok line) s.dataFields entries := by
      rw [formEntries, if_pos hform] at hentries
      exact (Sequence.mapM_eq_ok_iff _ _ _).1 hentries
    rw [emptyForm, hlines, form_between hform hentries, List.forall₂_map_right_iff]
    exact hall.imp (fun _ _ hline => Field.entered_formEntry hline)
  · rw [hlines]
    exact ⟨_, List.mem_append_left _ (List.mem_map_of_mem (numberLine_mem hform entries)), s.tellsNumbers_numberLine⟩
  · obtain ⟨before, after, hsplit⟩ := componentLines_form hform entries
    refine ⟨before.map String.toList, s.dataFields.map (fun f => f.widgetLines.map String.toList),
      after.map String.toList ++ [[]], ?_, ?_⟩
    · rw [hlines, hsplit, List.flatMap_def]
      simp only [List.map_append, List.map_cons, List.map_flatten, List.map_map, List.append_assoc, List.cons_append]
      rfl
    · rw [List.forall₂_map_right_iff, List.forall₂_same]
      exact fun f _ => f.controlled_widgetLines

end Schema

end Scaffold
