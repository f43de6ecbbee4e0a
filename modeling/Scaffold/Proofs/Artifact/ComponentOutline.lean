import Scaffold.Proofs.Artifact.ComponentLines
/-!
# Proofs.Artifact.ComponentOutline — what the lines of a component say

A line says what stands behind the cues in it (its address, a function, a request, a control) and which marks of
requests and controls occur in it (`Component.findings`).  The lines that are always the same are read by evaluation,
each section once.  A line that holds texts of the schema says nothing, whatever the texts, since its pieces are silent
and guarded (`Component.findings_woven`).
-/
namespace Scaffold

open Naming Source Text

namespace Component

/-- **What a component is outlined by**: its address, its functions, its requests with their target and method, and its
controls. -/
inductive Cue where
  | address
  | function
  | request
  | target
  | method
  | control
deriving DecidableEq, Repr

namespace Cue

def text : Cue → String
  | .address => "const API_URL ="
  | .function => "function"
  | .request => "fetch("
  | .target => "const url ="
  | .method => "const method ="
  | .control => "data-action ="

def all : List Cue := [.address, .function, .request, .target, .method, .control]

end Cue

/-- **A mark of a request or of a control.** -/
inductive Gate where
  | edit
  | delete
  | create
  | save
  | createOrSave
  | post
  | put
  | postOrPut
  | deletion
deriving DecidableEq, Repr

namespace Gate

def mark : Gate → Mark
  | .edit => { before := "data-action=", word := "update" }
  | .delete => { before := "data-action=", word := "delete" }
  | .create => { before := "data-action=", word := "create" }
  | .save => { before := "data-action=", word := "save" }
  | .createOrSave => { before := "data-action=\x7beditingId === null ? ", word := "create" }
  | .post => { before := "const method = ", word := "POST" }
  | .put => { before := "const method = ", word := "PUT" }
  | .postOrPut => { before := "const method = editingId === null ? ", word := "POST" }
  | .deletion => { before := "method: ", word := "DELETE" }

def isOpen : Gate → Operations → Bool
  | .edit, ops => ops.update
  | .delete, ops | .deletion, ops => ops.delete
  | .create, ops | .post, ops => ops.create && !ops.update
  | .save, ops | .put, ops => ops.update && !ops.create
  | .createOrSave, ops | .postOrPut, ops => ops.create && ops.update

def all : List Gate := [.edit, .delete, .create, .save, .createOrSave, .post, .put, .postOrPut, .deletion]

end Gate

/-- **What a line says**: that it is not one line, what stands behind a cue, or a mark. -/
inductive Finding where
  | feed
  | cue (cue : Cue) (rest : List Token)
  | gate (gate : Gate)
deriving DecidableEq, Repr

/-- **The marks that occur in a line**; without quotes there are none. -/
def gates (l : List Char) : List Gate :=
  if '"' ∈ l then ((Gate.all.map (fun g => (g, g.mark.text))).filter (fun p => occurs p.2 l)).map Prod.fst else []

def findings (l : List Char) : List Finding :=
  (if '\n' ∈ l then [.feed] else []) ++ (outline Cue.all Cue.text l).map (fun c => .cue c.1 c.2) ++
    (gates l).map .gate

def found (lines : List String) : List Finding := (lines.map String.toList).flatMap findings

theorem found_append (a b : List String) : found (a ++ b) = found a ++ found b := by
  rw [found, List.map_append, List.flatMap_append]
  rfl

theorem found_only (b : Bool) (l : List String) : found (only b l) = offered b (found l) := by
  cases b <;> rfl

/-! ## The sections -/

theorem found_sections :
    found payloadBody = [.cue .function (tokensOf "toPayload(form) \x7b")] ∧
    found formatLines = [.cue .function (tokensOf "formatValue(value) \x7b")] ∧
    found loadLines = [.cue .function (tokensOf "load() \x7b"), .cue .request (tokensOf "API_URL);")] ∧
    found editLines = [.cue .function (tokensOf "startEdit(item) \x7b")] ∧
    found deleteLines = [.cue .function (tokensOf "handleDelete(id) \x7b"),
      .cue .request (tokensOf "`$\x7bAPI_URL\x7d/$\x7bid\x7d`, \x7b method: \"DELETE\" \x7d);"), .gate .deletion] ∧
    found editControl =
      [.cue .control (tokensOf "\"update\" onClick=\x7b() => startEdit(item)\x7d>"), .gate .edit] ∧
    found deleteControl =
      [.cue .control (tokensOf "\"delete\" onClick=\x7b() => handleDelete(item.id)\x7d>"), .gate .delete] := by
  unfold found findings gates outline payloadBody formatLines loadLines editLines deleteLines editControl deleteControl
  simp only [-String.reduceToList, Schema.identityName, Cue.all, Cue.text, Gate.all, Gate.mark, Mark.text, tokensOf,
    List.map_cons, List.map_nil]
  repeat rw [String.toList_ofList]
  decide +kernel

def targetFindings (ops : Operations) : List Finding :=
  if ops.update && ops.create then
    [.cue .target (tokensOf "editingId === null ? API_URL : `$\x7bAPI_URL\x7d/$\x7beditingId\x7d`;"),
     .cue .method (tokensOf "editingId === null ? \"POST\" : \"PUT\";"), .gate .postOrPut]
  else if ops.update then
    [.cue .target (tokensOf "`$\x7bAPI_URL\x7d/$\x7beditingId\x7d`;"), .cue .method (tokensOf "\"PUT\";"), .gate .put]
  else [.cue .target (tokensOf "API_URL;"), .cue .method (tokensOf "\"POST\";"), .gate .post]

def submitFindings (ops : Operations) : List Finding :=
  if ops.create && ops.update then
    [.cue .control (tokensOf "\x7beditingId === null ? \"create\" : \"save\"\x7d>"), .gate .createOrSave]
  else if ops.create then [.cue .control (tokensOf "\"create\">"), .gate .create]
  else [.cue .control (tokensOf "\"save\">"), .gate .save]

theorem found_choices (ops : Operations) : found (targetLines ops) = targetFindings ops ∧
    found (submitControl ops) = submitFindings ops ∧ found (savedLines ops) = [] := by
  unfold targetLines submitControl savedLines targetFindings submitFindings found findings gates outline
  simp only [-String.reduceToList, Cue.all, Cue.text, Gate.all, Gate.mark, Mark.text, tokensOf, List.map_cons,
    List.map_nil]
  refine ⟨?_, ?_, ?_⟩
  all_goals
    repeat' split
    all_goals
      simp only [-String.reduceToList, List.map_cons, List.map_nil]
      repeat rw [String.toList_ofList]
      decide +kernel

open Component.Finding (cue) in
theorem found_framed (ops : Operations) :
    found (stateLines ops) = [] ∧
    found (submitLines ops) =
      [cue .function (tokensOf "handleChange(event) \x7b"), cue .function (tokensOf "handleSubmit(event) \x7b")] ++
        targetFindings ops ++ [cue .request (tokensOf "url, \x7b")] ∧
    found (tableLines ops) = offered ops.hasRowActions
      (offered ops.update (found editControl) ++ offered ops.delete (found deleteControl)) ∧
    found (formLines ops []) = submitFindings ops := by
  obtain ⟨htarget, hsubmit, hsaved⟩ := found_choices ops
  simp only [stateLines, submitLines, tableLines, formLines, found_append, found_only, htarget, hsubmit, hsaved]
  -- most sections say nothing
  have hboth : ∀ {a a' b b' : List Finding}, a = a' → b = b' → a ++ b = a' ++ b' := fun ha hb => ha ▸ hb ▸ rfl
  have hleft : ∀ {a a' b : List Finding}, a = a' → b = [] → a ++ b = a' := fun ha hb => by rw [ha, hb, List.append_nil]
  have hright : ∀ {a b b' : List Finding}, a = [] → b = b' → a ++ b = b' := fun ha hb => by rw [ha, hb, List.nil_append]
  have hnone : ∀ {b : Bool} {l : List Finding}, l = [] → offered b l = [] := fun h => by rw [h, offered_nil]
  have hsame : ∀ {b : Bool} {l l' : List Finding}, l = l' → offered b l = offered b l' := fun h => by rw [h]
  refine ⟨hleft (hleft (hleft ?_ (hnone ?_)) (hnone ?_)) ?_,
    hleft (hleft (hleft (hboth (hboth ?_ rfl) ?_) rfl) (hnone ?_)) ?_,
    hleft (hright (hleft (hleft ?_ (hnone ?_)) ?_) (hsame (hleft (hboth (hright ?_ rfl) rfl) ?_))) ?_,
    hleft (hleft (hright (hleft (hleft (hnone ?_) ?_) rfl) rfl) ?_) (hnone ?_)⟩
  all_goals
    unfold found findings gates outline
    simp only [-String.reduceToList, Schema.identityName, Cue.all, Cue.text, Gate.all, Gate.mark, Mark.text, tokensOf,
      List.map_cons, List.map_nil]
    repeat rw [String.toList_ofList]
    decide +kernel

/-! ## The other lines -/

theorem found_bareLines : ∀ l ∈ bareLines, findings l.toList = [] := by
  have hmap : ∀ l ∈ bareLines.map String.toList, findings l = [] := by
    unfold bareLines findings gates outline
    simp only [-String.reduceToList, Cue.all, Cue.text, Gate.all, Gate.mark, Mark.text, tokensOf, List.map_cons,
      List.map_nil]
    repeat rw [String.toList_ofList]
    decide +kernel
  exact List.forall_mem_map.1 hmap

theorem isCue_text : ∀ cue ∈ Cue.all.map Cue.text, IsCue cue := by
  decide +kernel

theorem silent_pieces : ∀ p ∈ pieces.map String.toList, Silent (Cue.all.map Cue.text) p := by
  unfold pieces
  repeat rw [map_toList_cons]
  decide +kernel

theorem guards_pieces :
    ∀ p ∈ (addressPieces ++ pieces).map String.toList, '\n' ∉ p ∧ ∀ g ∈ Gate.all, g.mark.Guards p := by
  unfold addressPieces pieces
  simp only [List.cons_append, List.nil_append]
  repeat rw [map_toList_cons]
  decide +kernel

theorem gates_eq_nil {l : List Char} (h : ∀ g : Gate, ¬ g.mark.text <:+: l) : gates l = [] := by
  unfold gates
  split
  · rw [List.map_eq_nil_iff, List.filter_eq_nil_iff]
    exact List.forall_mem_map.2 (fun g _ hocc => h g (occurs_eq_true_iff.1 hocc))
  · rfl

theorem mem_gates_iff {g : Gate} {l : List Char} : g ∈ gates l ↔ g.mark.text <:+: l := by
  have hall : g ∈ Gate.all := by cases g <;> decide
  unfold gates
  split
  · simp [occurs_eq_true_iff, hall]
  · rename_i hquote
    refine iff_of_false (by simp) (fun hocc => hquote (hocc.subset ?_))
    simp [Mark.text]

/-- A line that is woven from the pieces of the component says nothing besides what stands behind its cues. -/
theorem woven_guarded {l : String} (h : WovenFrom (addressPieces ++ pieces) l) :
    '\n' ∉ l.toList ∧ gates l.toList = [] := by
  refine ⟨h.not_mem (by decide) (fun p hp => (guards_pieces p hp).1), gates_eq_nil (fun g => ?_)⟩
  exact Woven.not_infix (fun p hp => (guards_pieces p hp).2 g (by cases g <;> decide)) h

theorem findings_woven {l : String} (h : WovenFrom pieces l) : findings l.toList = [] := by
  obtain ⟨hfeed, hgates⟩ := woven_guarded (Woven.mono (List.map_subset _ (List.subset_append_right _ _)) h)
  have houtline : outline Cue.all Cue.text l.toList = [] :=
    outline_eq_nil (fun cue hcue => Woven.after?_eq_none isCue_text silent_pieces h _ (List.mem_map_of_mem hcue))
  rw [findings, if_neg hfeed, houtline, hgates]
  rfl

end Component

end Scaffold
