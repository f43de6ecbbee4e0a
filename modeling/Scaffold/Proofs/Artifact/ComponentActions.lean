import Scaffold.Proofs.Artifact.ComponentOutline
/-!
# Proofs.Artifact.ComponentActions — the requests and controls of a component

The sections of a component together say what `Schema.componentFindings` lists, and the text is read as its lines
(`Named.component_lines`, `Named.component_said`).  From the outline come the functions with their requests, the ways in
which the form is sent, and the controls; each of them is there with the operations of the schema that ask for it.
-/
namespace Scaffold

open Naming Source Text

namespace Component

/-! ## Readers -/

def outlineOf (component : String) : List (Cue × List Token) := (textLines component).flatMap (outline Cue.all Cue.text)

/-- What stands behind one of the cues, wherever it occurs. -/
def following (cue : Cue) (o : List (Cue × List Token)) : List (List Token) :=
  (o.filter (fun c => decide (c.1 = cue))).map Prod.snd

def functionsOf : List (Cue × List Token) → List (List Char × List (List Token))
  | [] => []
  | (.function, .word name :: _) :: o =>
    (name, following .request (o.takeWhile (fun c => decide (c.1 ≠ .function)))) :: functionsOf o
  | _ :: o => functionsOf o

/-- The values between which a condition decides, or the one value, up to the end of the statement. -/
def branches (ts : List Token) : List (List Token) :=
  match after? [.mark '?'] ts with
  | none => [ts.takeWhile (fun t => decide (t ≠ .mark ';'))]
  | some rest => [rest.takeWhile (fun t => decide (t ≠ .mark ':')),
      ((rest.dropWhile (fun t => decide (t ≠ .mark ':'))).drop 1).takeWhile (fun t => decide (t ≠ .mark ';'))]

def submissionsOf (o : List (Cue × List Token)) : List (List Token × List Token) :=
  ((following .method o).flatMap branches).zip ((following .target o).flatMap branches)

def quotedText? : Token → Option (List Char)
  | .quoted _ l => some l
  | _ => none

def handler? (ts : List Token) : Option (List Char) :=
  match after? [.mark '=', .mark '>'] ts with
  | some (.word name :: _) => some name
  | _ => none

def controlsOf (o : List (Cue × List Token)) : List (List Char × Option (List Char)) :=
  (following .control o).flatMap (fun ts => (ts.filterMap quotedText?).map (fun action => (action, handler? ts)))

def addressesOf (o : List (Cue × List Token)) : List (List Char) :=
  (following .address o).flatMap (List.filterMap quotedText?)

def Finding.cue? : Finding → Option (Cue × List Token)
  | .cue c ts => some (c, ts)
  | _ => none

/-! ## Functions section by section -/

def requestsIn (o : List (Cue × List Token)) : List (List Token) :=
  following .request (o.takeWhile (fun c => decide (c.1 ≠ .function)))

theorem requestsIn_append {rest : List (Cue × List Token)} (h : requestsIn rest = []) (o : List (Cue × List Token)) :
    requestsIn (o ++ rest) = requestsIn o := by
  unfold requestsIn following at h ⊢
  rw [List.takeWhile_append]
  split
  · rename_i hall
    rw [List.filter_append, List.map_append, h, List.append_nil, (List.takeWhile_prefix _).eq_of_length hall]
  · rfl

/-- **The functions of sections one behind the other**, if what follows requests nothing before its first function. -/
theorem functionsOf_append {rest : List (Cue × List Token)} (h : requestsIn rest = []) (o : List (Cue × List Token)) :
    functionsOf (o ++ rest) = functionsOf o ++ functionsOf rest := by
  induction o using functionsOf.induct with
  | case1 => rfl
  | case2 name ts o ih =>
    show (name, requestsIn (o ++ rest)) :: functionsOf (o ++ rest) = _
    rw [requestsIn_append h, ih]
    rfl
  | case3 c o hc ih =>
    rw [List.cons_append, functionsOf, ih, functionsOf]
    · exact hc
    · exact hc

theorem functionsOf_append_offered {l : List (Cue × List Token)} (h : requestsIn l = []) (o : List (Cue × List Token))
    (b : Bool) : functionsOf (o ++ offered b l) = functionsOf o ++ offered b (functionsOf l) := by
  cases b
  · exact functionsOf_append rfl o
  · exact functionsOf_append h o

theorem filterMap_offered {α β : Type} (f : α → Option β) (b : Bool) (l : List α) :
    (offered b l).filterMap f = offered b (l.filterMap f) := by
  cases b <;> rfl

end Component

namespace Schema

open Component

/-! ## The lines with names of the entity -/

theorem tokens_addressLine {s : Schema} (h : s.Named) : tokens .escaped s.addressLine.toList =
    [.word "const".toList, .word "API_URL".toList, .mark '=', .quoted '"' s.collectionPath.toList, .mark ';'] := by
  have hfront : Closes .escaped "const API_URL = ".toList [.word "const".toList, .word "API_URL".toList, .mark '='] :=
    Closes.of_run rfl
  have hend : Closes .escaped ";".toList [.mark ';'] := Closes.of_run rfl
  rw [addressLine_eq h, toList_literal_between, ((hfront.append (closes_literal _)).append hend).reads.tokens_eq,
    flatMap_literalSign_of_isPlain (isPlain_of_mem_collectionPath h.entityName_in)]
  rfl

theorem outline_addressLine {s : Schema} (h : s.Named) : outline Cue.all Cue.text s.addressLine.toList =
    [(.address, [.quoted '"' s.collectionPath.toList, .mark ';'])] := by
  unfold outline
  rw [tokens_addressLine h]
  simp only [-String.reduceToList, Cue.all, Cue.text, List.map_cons, List.map_nil, tokensOf]
  repeat rw [String.toList_ofList]
  rfl

theorem tokens_exportLine {s : Schema} (h : s.Named) : tokens .escaped s.exportLine.toList =
    [.word "export".toList, .word "default".toList] ++
      ([.word "function".toList] ++ (.word (s.className ++ "List").toList :: tokensOf "() \x7b")) := by
  have hpart : ∀ c ∈ (s.className ++ "List").toList, isIdentifierPart c = true := by
    rw [String.toList_append]
    exact List.forall_mem_append.2 ⟨h.allParts_className, List.all_eq_true.1 (by decide +kernel)⟩
  have hne : (s.className ++ "List").toList ≠ [] := by
    rw [String.toList_append]
    exact List.append_ne_nil_of_right_ne_nil _ (by decide)
  have hfront : Closes .escaped "export default function ".toList
      [.word "export".toList, .word "default".toList, .word "function".toList] := Closes.of_run rfl
  have hend : Closes .escaped "() \x7b".toList (tokensOf "() \x7b") := Closes.of_run rfl
  have hname : Reads .escaped (s.className ++ "List").toList [.word (s.className ++ "List").toList] :=
    reads_word hne (fun c hc => isWordChar_of_part (hpart c hc))
  have hline : s.exportLine = "export default function " ++ (s.className ++ "List") ++ "() \x7b" := by
    have hassoc : ∀ a b c d : String, a ++ b ++ (c ++ d) = a ++ (b ++ c) ++ d := fun a b c d => by
      simp only [String.append_assoc]
    exact hassoc _ _ "List" "() \x7b"
  rw [hline, String.toList_append, String.toList_append]
  exact ((hfront.append_reads hname).append_closes hend (fun rest => separated_cons_append rfl _ rest)).reads.tokens_eq

theorem outline_exportLine {s : Schema} (h : s.Named) : outline Cue.all Cue.text s.exportLine.toList =
    [(.function, .word (s.className ++ "List").toList :: tokensOf "() \x7b")] := by
  -- the other cues begin with words that are not there
  have hwords : ∀ w ∈ ["const", "fetch", "data"], ¬ "List".toList <:+ w.toList ∧ Token.word w.toList ∉
      [.word "export".toList, .word "default".toList, .word "function".toList] ++ tokensOf "() \x7b" := by
        decide +kernel
  have hother : ∀ w ∈ ["const", "fetch", "data"], Token.word w.toList ∉ tokens .escaped s.exportLine.toList := by
    intro w hw hmem
    obtain ⟨hsuffix, hnot⟩ := hwords w hw
    rw [tokens_exportLine h] at hmem
    simp only [List.cons_append, List.nil_append, List.mem_cons, not_or] at hmem hnot
    rcases hmem with heq | heq | heq | heq | hmem
    · exact hnot.1 heq
    · exact hnot.2.1 heq
    · exact hnot.2.2.1 heq
    · rw [Token.word.inj heq, String.toList_append] at hsuffix
      exact hsuffix (List.suffix_append _ _)
    · exact hnot.2.2.2 hmem
  have hnone : ∀ (cue : Cue) (w : String), w ∈ ["const", "fetch", "data"] → .word w.toList ∈ tokensOf cue.text →
      after? (tokensOf cue.text) (tokens .escaped s.exportLine.toList) = none := fun _ _ hw ht =>
    after?_eq_none_of_not_mem ht (hother _ hw)
  have hfunction : after? (tokensOf Cue.function.text) (tokens .escaped s.exportLine.toList) =
      some (.word (s.className ++ "List").toList :: tokensOf "() \x7b") := by
    have hcue : tokensOf Cue.function.text = [.word "function".toList] := by decide +kernel
    rw [hcue, tokens_exportLine h]
    exact after?_append _ (by decide +kernel)
  simp only [outline, Cue.all, List.map_cons, List.map_nil, List.filterMap_cons, List.filterMap_nil, hfunction,
    hnone .address "const" (by decide) (by decide +kernel),
    hnone .request "fetch" (by decide) (by decide +kernel),
    hnone .target "const" (by decide) (by decide +kernel),
    hnone .method "const" (by decide) (by decide +kernel),
    hnone .control "data" (by decide) (by decide +kernel), Option.map_none, Option.map_some]

theorem findings_addressLine {s : Schema} (h : s.Named) :
    findings s.addressLine.toList = [.cue .address [.quoted '"' s.collectionPath.toList, .mark ';']] := by
  obtain ⟨hfeed, hgates⟩ :=
    woven_guarded (Woven.mono (List.map_subset _ (List.subset_append_left _ _)) h.woven_addressLine)
  rw [findings, if_neg hfeed, outline_addressLine h, hgates]
  rfl

theorem findings_exportLine {s : Schema} (h : s.Named) : findings s.exportLine.toList =
    [.cue .function (.word (s.className ++ "List").toList :: tokensOf "() \x7b")] := by
  -- a class name is made of letters, digits and underscores
  have hnot : ∀ c : Char, isIdentifierPart c = false → c ∉ "export default function ".toList →
      c ∉ "List() \x7b".toList → c ∉ s.exportLine.toList := by
    intro c hc hfront hend hmem
    have happend : ∀ {x y z : String}, c ∈ (x ++ y ++ z).toList → c ∈ x.toList ∨ c ∈ y.toList ∨ c ∈ z.toList := by
      simp
    rcases happend hmem with hmem | hmem | hmem
    · exact hfront hmem
    · rw [h.allParts_className c hmem] at hc
      cases hc
    · exact hend hmem
  have hfeed : '\n' ∉ s.exportLine.toList := hnot _ (by decide) (by decide +kernel) (by decide +kernel)
  have hquote : '"' ∉ s.exportLine.toList := hnot _ (by decide) (by decide +kernel) (by decide +kernel)
  have hgates : gates s.exportLine.toList = [] := if_neg hquote
  rw [findings, if_neg hfeed, outline_exportLine h, hgates]
  rfl

/-! ## The whole component -/

open Component.Finding (cue gate) in
/-- **What the lines of a component say**, section by section. -/
def componentFindings (s : Schema) : List Component.Finding :=
  [cue .address [.quoted '"' s.collectionPath.toList, .mark ';']] ++
  offered s.operations.hasForm [cue .function (tokensOf "toPayload(form) \x7b")] ++
  [cue .function (tokensOf "formatValue(value) \x7b")] ++
  [cue .function (.word (s.className ++ "List").toList :: tokensOf "() \x7b")] ++
  offered s.operations.read [cue .function (tokensOf "load() \x7b"), cue .request (tokensOf "API_URL);")] ++
  offered s.operations.hasForm
    ([cue .function (tokensOf "handleChange(event) \x7b"), cue .function (tokensOf "handleSubmit(event) \x7b")] ++
      targetFindings s.operations ++ [cue .request (tokensOf "url, \x7b")]) ++
  offered s.operations.update [cue .function (tokensOf "startEdit(item) \x7b")] ++
  offered s.operations.delete [cue .function (tokensOf "handleDelete(id) \x7b"),
    cue .request (tokensOf "`$\x7bAPI_URL\x7d/$\x7bid\x7d`, \x7b method: \"DELETE\" \x7d);"), gate .deletion] ++
  offered s.operations.update
    [cue .control (tokensOf "\"update\" onClick=\x7b() => startEdit(item)\x7d>"), gate .edit] ++
  offered s.operations.delete
    [cue .control (tokensOf "\"delete\" onClick=\x7b() => handleDelete(item.id)\x7d>"), gate .delete] ++
  offered s.operations.hasForm (submitFindings s.operations)

theorem Named.found_componentLines {s : Schema} (h : s.Named) {entries : List String}
    (hentries : ∀ l ∈ entries, ∃ f : Field, f.formEntry = .ok l) :
    found (s.componentLines entries) = s.componentFindings := by
  have hwoven : ∀ l ∈ s.wovenLines entries, findings l.toList = [] := fun l hl =>
    findings_woven (h.woven_lines hentries l hl)
  obtain ⟨hpayload, hformat, hload, hedit, hdelete, heditControl, hdeleteControl⟩ := found_sections
  obtain ⟨hstate, hsubmit, htable, hform⟩ := found_framed s.operations
  have hfound : ∀ l : List String, l.flatMap (fun x => findings x.toList) = found l := fun l => by
    rw [found, List.flatMap_map]
  -- there are actions in the rows if one of the operations has a control there
  have hactions : ∀ a b : List Component.Finding, offered s.operations.hasRowActions
      (offered s.operations.update a ++ offered s.operations.delete b) =
        offered s.operations.update a ++ offered s.operations.delete b := fun a b => by
    rw [Operations.hasRowActions]
    cases s.operations.update <;> cases s.operations.delete <;> rfl
  rw [← hfound, flatMap_componentLines hwoven found_bareLines]
  simp only [hfound, findings_addressLine h, findings_exportLine h, hpayload, hformat, hload, hedit, hdelete, hstate,
    hsubmit, htable, hform, heditControl, hdeleteControl, componentFindings, List.append_nil, hactions,
    List.append_assoc]

theorem feed_not_mem_componentFindings (s : Schema) : .feed ∉ s.componentFindings := by
  have htarget : .feed ∉ targetFindings s.operations := by
    unfold targetFindings
    repeat' split
    all_goals simp
  have hsubmit : .feed ∉ submitFindings s.operations := by
    unfold submitFindings
    repeat' split
    all_goals simp
  simp [componentFindings, mem_offered, htarget, hsubmit]

theorem gate_mem_componentFindings_iff (s : Schema) (g : Gate) :
    .gate g ∈ s.componentFindings ↔ g.isOpen s.operations = true := by
  simp only [componentFindings, targetFindings, submitFindings, Operations.hasForm, List.mem_append, mem_offered,
    List.mem_cons, List.not_mem_nil, reduceCtorEq, Component.Finding.gate.injEq, or_false, and_false, false_or]
  cases hcreate : s.operations.create <;> cases hupdate : s.operations.update <;>
    cases hdelete : s.operations.delete <;>
    cases g <;> simp [Gate.isOpen, hcreate, hupdate, hdelete]

theorem Named.component_lines {s : Schema} (h : s.Named) : ∃ entries,
    s.component = .ok ("\n".intercalate (s.componentLines entries) ++ "\n") ∧
    textLines ("\n".intercalate (s.componentLines entries) ++ "\n") =
      (s.componentLines entries).map String.toList ++ [[]] ∧
    found (s.componentLines entries) = s.componentFindings := by
  obtain ⟨component, hcomponent⟩ := h.accepted.exists_component_eq_ok
  obtain ⟨entries, hentries, rfl⟩ := Sequence.map_eq_ok_iff.1 hcomponent
  have hfound := h.found_componentLines (exists_of_mem_formEntries hentries)
  -- a line feed in one of the lines would be a finding
  have honeLine : ∀ l ∈ s.componentLines entries, OneLine l := by
    intro l hl hfeed
    refine s.feed_not_mem_componentFindings (hfound ▸ ?_)
    refine List.mem_flatMap.2 ⟨l.toList, List.mem_map_of_mem hl, ?_⟩
    rw [findings, if_pos hfeed]
    simp
  exact ⟨entries, hcomponent, textLines_complete (s.componentLines_ne_nil entries) honeLine, hfound⟩

/-- **The lines of a component say what the operations ask for**, and so do the marks in its text. -/
theorem Named.component_said {s : Schema} (h : s.Named) : ∃ component, s.component = .ok component ∧
    (textLines component).flatMap findings = s.componentFindings ∧
    ∀ g : Gate, g.mark.text <:+: component.toList ↔ g.isOpen s.operations = true := by
  obtain ⟨entries, hcomponent, hlines, hfound⟩ := h.component_lines
  refine ⟨_, hcomponent, ?_, fun g => ?_⟩
  · rw [hlines, List.flatMap_append]
    exact (List.append_nil _).trans hfound
  · have hfeed : '\n' ∉ g.mark.text := by cases g <;> decide +kernel
    have hmark : g.mark.text ≠ [] := by simp [Mark.text]
    have hmem : ∀ l, .gate g ∈ findings l ↔ g.mark.text <:+: l := fun l => by
      rw [← mem_gates_iff]
      simp [findings]
    rw [← gate_mem_componentFindings_iff, ← hfound, found,
      infix_lines_iff hfeed hmark (s.componentLines_ne_nil entries)]
    simp [hmem]

/-! ## Projections of the outline -/

theorem outlineOf_eq_filterMap (component : String) :
    outlineOf component = ((textLines component).flatMap findings).filterMap Component.Finding.cue? := by
  have hline : ∀ l, (findings l).filterMap Component.Finding.cue? = outline Cue.all Cue.text l := by
    intro l
    have hfeed : (if '\n' ∈ l then [Component.Finding.feed] else []).filterMap Component.Finding.cue? = [] := by
      split <;> rfl
    have hcues : ((outline Cue.all Cue.text l).map (fun c => Component.Finding.cue c.1 c.2)).filterMap
        Component.Finding.cue? = outline Cue.all Cue.text l := by
      rw [List.filterMap_map]
      exact List.filterMap_some
    have hgates : ((gates l).map Component.Finding.gate).filterMap Component.Finding.cue? = [] := by
      rw [List.filterMap_map]
      exact List.filterMap_eq_nil_iff.2 (fun _ _ => rfl)
    rw [findings, List.filterMap_append, List.filterMap_append, hfeed, hcues, hgates, List.nil_append, List.append_nil]
  rw [List.filterMap_flatMap]
  exact congrArg (List.flatMap · (textLines component)) (funext (fun l => (hline l).symm))

theorem tokensOf_functions :
    tokensOf "toPayload(form) \x7b" = .word "toPayload".toList :: tokensOf "(form) \x7b" ∧
    tokensOf "formatValue(value) \x7b" = .word "formatValue".toList :: tokensOf "(value) \x7b" ∧
    tokensOf "load() \x7b" = .word "load".toList :: tokensOf "() \x7b" ∧
    tokensOf "handleChange(event) \x7b" = .word "handleChange".toList :: tokensOf "(event) \x7b" ∧
    tokensOf "handleSubmit(event) \x7b" = .word "handleSubmit".toList :: tokensOf "(event) \x7b" ∧
    tokensOf "startEdit(item) \x7b" = .word "startEdit".toList :: tokensOf "(item) \x7b" ∧
    tokensOf "handleDelete(id) \x7b" = .word "handleDelete".toList :: tokensOf "(id) \x7b" := by
  unfold tokensOf
  repeat rw [String.toList_ofList]
  decide +kernel

theorem branches_targets :
    branches (tokensOf "editingId === null ? API_URL : `$\x7bAPI_URL\x7d/$\x7beditingId\x7d`;") =
      [tokensOf "API_URL", tokensOf "`$\x7bAPI_URL\x7d/$\x7beditingId\x7d`"] ∧
    branches (tokensOf "`$\x7bAPI_URL\x7d/$\x7beditingId\x7d`;") = [tokensOf "`$\x7bAPI_URL\x7d/$\x7beditingId\x7d`"] ∧
    branches (tokensOf "API_URL;") = [tokensOf "API_URL"] ∧
    branches (tokensOf "editingId === null ? \"POST\" : \"PUT\";") = [tokensOf "\"POST\"", tokensOf "\"PUT\""] ∧
    branches (tokensOf "\"PUT\";") = [tokensOf "\"PUT\""] ∧
    branches (tokensOf "\"POST\";") = [tokensOf "\"POST\""] := by
  unfold tokensOf
  repeat rw [String.toList_ofList]
  decide +kernel

def componentFunctions (s : Schema) : List (List Char × List (List Token)) :=
  offered s.operations.hasForm [("toPayload".toList, [])] ++
  [("formatValue".toList, []), ((s.className ++ "List").toList, [])] ++
  offered s.operations.read [("load".toList, [tokensOf "API_URL);"])] ++
  offered s.operations.hasForm [("handleChange".toList, []), ("handleSubmit".toList, [tokensOf "url, \x7b"])] ++
  offered s.operations.update [("startEdit".toList, [])] ++
  offered s.operations.delete
    [("handleDelete".toList, [tokensOf "`$\x7bAPI_URL\x7d/$\x7bid\x7d`, \x7b method: \"DELETE\" \x7d);"])]

open Component.Finding (cue) in
theorem functionsOf_submission (ops : Operations) (name ts name' ts' request) :
    functionsOf (([cue .function (.word name :: ts), cue .function (.word name' :: ts')] ++ targetFindings ops ++
      [cue .request request]).filterMap Component.Finding.cue?) = [(name, []), (name', [request])] := by
  unfold targetFindings
  cases ops.update <;> cases ops.create <;> rfl

theorem cues_submitFindings (ops : Operations) :
    ∃ ts, (submitFindings ops).filterMap Component.Finding.cue? = [(.control, ts)] := by
  unfold submitFindings
  cases ops.create <;> cases ops.update <;> exact ⟨_, rfl⟩

theorem functionsOf_componentFindings (s : Schema) :
    functionsOf (s.componentFindings.filterMap Component.Finding.cue?) = s.componentFunctions := by
  obtain ⟨hpayload, hformat, hload, hchange, hsubmit, hedit, hdelete⟩ := tokensOf_functions
  obtain ⟨_, hcontrol⟩ := cues_submitFindings s.operations
  have hsend :=
    functionsOf_submission s.operations "handleChange".toList (tokensOf "(event) \x7b") "handleSubmit".toList
    (tokensOf "(event) \x7b") (tokensOf "url, \x7b")
  simp only [List.filterMap_append] at hsend
  have hgate : ∀ g, [Component.Finding.gate g].filterMap Component.Finding.cue? = [] := fun _ => rfl
  unfold componentFindings componentFunctions
  rw [hpayload, hformat, hload, hchange, hsubmit, hedit, hdelete]
  simp only [List.filterMap_append, filterMap_offered, hcontrol]
  -- no section requests anything before its first function
  rw [functionsOf_append_offered rfl, functionsOf_append_offered rfl, functionsOf_append_offered rfl,
    functionsOf_append_offered rfl, functionsOf_append_offered rfl, functionsOf_append_offered rfl,
    functionsOf_append_offered rfl, functionsOf_append rfl, functionsOf_append rfl, functionsOf_append_offered rfl,
    hsend]
  simp [functionsOf, following, Component.Finding.cue?, hgate, offered_nil, -String.reduceToList]

def componentSubmissions (s : Schema) : List (List Token × List Token) :=
  offered s.operations.create [(tokensOf "\"POST\"", tokensOf "API_URL")] ++
  offered s.operations.update [(tokensOf "\"PUT\"", tokensOf "`$\x7bAPI_URL\x7d/$\x7beditingId\x7d`")]

def componentControls (s : Schema) : List (List Char × Option (List Char)) :=
  offered s.operations.update [("update".toList, some "startEdit".toList)] ++
  offered s.operations.delete [("delete".toList, some "handleDelete".toList)] ++
  offered s.operations.create [("create".toList, none)] ++
  offered s.operations.update [("save".toList, none)]

def componentRequests (s : Schema) : List (List Token) :=
  offered s.operations.read [tokensOf "API_URL);"] ++ offered s.operations.hasForm [tokensOf "url, \x7b"] ++
  offered s.operations.delete [tokensOf "`$\x7bAPI_URL\x7d/$\x7bid\x7d`, \x7b method: \"DELETE\" \x7d);"]

theorem following_componentFindings (s : Schema) {o : List (Cue × List Token)}
    (ho : o = s.componentFindings.filterMap Component.Finding.cue?) :
    following .address o = [[.quoted '"' s.collectionPath.toList, .mark ';']] ∧
    following .request o = s.componentRequests ∧
    following .target o =
      (if s.operations.update && s.operations.create then
        [tokensOf "editingId === null ? API_URL : `$\x7bAPI_URL\x7d/$\x7beditingId\x7d`;"]
      else offered s.operations.update [tokensOf "`$\x7bAPI_URL\x7d/$\x7beditingId\x7d`;"] ++
        offered s.operations.create [tokensOf "API_URL;"]) ∧
    following .method o =
      (if s.operations.update && s.operations.create then [tokensOf "editingId === null ? \"POST\" : \"PUT\";"]
      else offered s.operations.update [tokensOf "\"PUT\";"] ++ offered s.operations.create [tokensOf "\"POST\";"]) ∧
    following .control o =
      offered s.operations.update [tokensOf "\"update\" onClick=\x7b() => startEdit(item)\x7d>"] ++
      offered s.operations.delete [tokensOf "\"delete\" onClick=\x7b() => handleDelete(item.id)\x7d>"] ++
      (if s.operations.create && s.operations.update then
        [tokensOf "\x7beditingId === null ? \"create\" : \"save\"\x7d>"]
      else offered s.operations.create [tokensOf "\"create\">"] ++
        offered s.operations.update [tokensOf "\"save\">"]) := by
  subst ho
  unfold componentFindings componentRequests targetFindings submitFindings Operations.hasForm
  cases s.operations.create <;> cases s.operations.read <;> cases s.operations.update <;> cases s.operations.delete <;>
    simp only [offered, Bool.or_self, Bool.or_true, Bool.or_false, Bool.and_self, Bool.and_true, Bool.and_false,
      Bool.false_eq_true, ↓reduceIte, List.append_nil, List.nil_append, List.cons_append] <;>
    exact ⟨rfl, rfl, rfl, rfl, rfl⟩

theorem submissionsOf_componentFindings (s : Schema) :
    submissionsOf (s.componentFindings.filterMap Component.Finding.cue?) = s.componentSubmissions := by
  obtain ⟨heither, hitem, hcollection, hpostOrPut, hput, hpost⟩ := branches_targets
  obtain ⟨-, -, htarget, hmethod, -⟩ := following_componentFindings s rfl
  rw [submissionsOf, hmethod, htarget, componentSubmissions]
  cases s.operations.create <;> cases s.operations.update
  · rfl
  · simp [offered, hitem, hput]
  · simp [offered, hcollection, hpost]
  · simp [offered, heither, hpostOrPut]

theorem controls_read : ∀ p ∈ [
    ("\"update\" onClick=\x7b() => startEdit(item)\x7d>", [("update".toList, some "startEdit".toList)]),
    ("\"delete\" onClick=\x7b() => handleDelete(item.id)\x7d>", [("delete".toList, some "handleDelete".toList)]),
    ("\x7beditingId === null ? \"create\" : \"save\"\x7d>", [("create".toList, none), ("save".toList, none)]),
    ("\"create\">", [("create".toList, none)]), ("\"save\">", [("save".toList, none)])],
    ((tokensOf p.1).filterMap quotedText?).map (fun action => (action, handler? (tokensOf p.1))) = p.2 := by
  simp only [List.forall_mem_cons, tokensOf]
  repeat rw [String.toList_ofList]
  decide +kernel

theorem controlsOf_componentFindings (s : Schema) :
    controlsOf (s.componentFindings.filterMap Component.Finding.cue?) = s.componentControls := by
  obtain ⟨-, -, -, -, hcontrol⟩ := following_componentFindings s rfl
  obtain ⟨hedit, hdelete, heither, hcreate, hsave, -⟩ : _ ∧ _ ∧ _ ∧ _ ∧ _ ∧ _ := by
    simpa only [List.forall_mem_cons] using controls_read
  rw [controlsOf, hcontrol, componentControls]
  cases s.operations.create <;> cases s.operations.update <;> cases s.operations.delete <;>
    simp [offered, hedit, hdelete, heither, hcreate, hsave, -String.reduceToList]

end Schema

end Scaffold
