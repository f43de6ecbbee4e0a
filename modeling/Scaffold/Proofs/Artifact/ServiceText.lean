import Scaffold.Artifact.Service
import Scaffold.Proofs.Artifact.Names
import Scaffold.Proofs.Source.Block
/-!
# Proofs.Artifact.ServiceText — the classes of a service, read back

Up to the search for one row the text of a service is read as lines, and each class among them as its declarations.  For
a schema whose names are identifiers these are the attributes of the requests and of the answer, each with the call that
its value is, if it has one (`Named.service_read`).
-/
namespace Scaffold

open Naming Source Text

/-! ## The line of a request's attribute -/

namespace Rule

def constraintTokens : Rule → List (List Token)
  | .maxLength => [[.word "max_length".toList, .mark '=', .word "255".toList]]
  | _ => []

theorem forall₂_constraints (rule : Rule) :
    List.Forall₂ IsArgument (rule.constraints.map String.toList) rule.constraintTokens := by
  cases rule with
  | maxLength => exact .cons (IsArgument.of_whole rfl rfl) .nil
  | _ => exact .nil

end Rule

def aliasTokens (keyword : String) (name : Wording) : List Token :=
  [.word keyword.toList, .mark '=', .quoted '"' (name.signs.flatMap literalSign)]

namespace RequestField

def argumentTokens (r : RequestField) (rule : Rule) : List (List Token) :=
  (if r.optional then [[.word "default".toList, .mark '=', .word "None".toList]] else []) ++ rule.constraintTokens ++
    (r.alias?.map (aliasTokens "alias")).toList

theorem forall₂_arguments {r : RequestField} {rule : Rule} (h : r.constraints = rule.constraints) :
    List.Forall₂ IsArgument (r.arguments.map String.toList) (r.argumentTokens rule) := by
  unfold arguments argumentTokens
  rw [List.map_append, List.map_append, h]
  refine List.rel_append (List.rel_append ?_ rule.forall₂_constraints) ?_
  · cases r.optional with
    | false => exact .nil
    | true => exact .cons (IsArgument.of_whole rfl rfl) .nil
  · cases r.alias? with
    | none => exact .nil
    | some name =>
      refine .cons ?_ .nil
      rw [String.toList_append]
      exact IsArgument.keyword rfl (by simpa [quoted] using isArgument_literal name.signs)

def valueTokens (r : RequestField) (rule : Rule) : List Token :=
  if rule.constraints.isEmpty && r.alias?.isNone then
    if r.optional then [.word "None".toList] else []
  else .word "Field".toList :: .mark '(' :: (join [.mark ','] (r.argumentTokens rule) ++ [.mark ')'])

theorem trails_initialiser {r : RequestField} {rule : Rule} (h : r.constraints = rule.constraints) :
    Trails .escaped r.initialiser.toList (initialised (r.valueTokens rule)) := by
  unfold initialiser valueTokens
  rw [h]
  split
  · split
    · exact (Reads.of_whole rfl : Reads .escaped "= None".toList [.mark '=', .word "None".toList]).trails
    · exact Trails.nil
  · have hopen : Closes .escaped "= Field(".toList [.mark '=', .word "Field".toList, .mark '('] := Closes.of_run rfl
    have hcall := (closes_call hopen (forall₂_arguments h)).reads.trails
    simp only [String.toList_append, String.toList_intercalate, intercalate_eq_join, List.append_assoc] at hcall ⊢
    exact hcall

def declaration (r : RequestField) (rule : Rule) : Declaration where
  name := r.attr.toList
  annotation := annotationTokens r.optional r.type.name
  value := r.valueTokens rule

theorem declared?_line {r : RequestField} {rule : Rule} (h : r.constraints = rule.constraints)
    (hattr : isPlainIdentifier r.attr.toList = true) : declared? r.line.toList = some (r.declaration rule) := by
  unfold line
  exact declared?_annotated hattr (reads_annotated r.optional (by cases r.type <;> decide)) (annotationTokens_ne _ _)
    (trails_initialiser h)

theorem argumentTokens_ne_nil {r : RequestField} {rule : Rule}
    (h : ¬ (rule.constraints.isEmpty && r.alias?.isNone) = true) : r.argumentTokens rule ≠ [] := by
  intro hnil
  have hempty : rule.constraintTokens.isEmpty = rule.constraints.isEmpty := by cases rule <;> rfl
  obtain ⟨hfront, halias⟩ := List.append_eq_nil_iff.1 hnil
  rw [← hempty, (List.append_eq_nil_iff.1 hfront).2] at h
  cases hname : r.alias? with
  | none => simp [hname] at h
  | some name => simp [hname] at halias

theorem keyword?_alias {r : RequestField} {rule : Rule} (h : r.constraints = rule.constraints) :
    keyword? "alias" (callArguments (r.valueTokens rule)) =
      r.alias?.map (fun name => [.quoted '"' (name.signs.flatMap literalSign)]) := by
  unfold valueTokens
  split
  · rename_i hplain
    rw [Bool.and_eq_true, Option.isNone_iff_eq_none] at hplain
    rw [hplain.2]
    cases r.optional <;> rfl
  · rename_i hplain
    rw [callArguments_of_forall₂ (forall₂_arguments h) (argumentTokens_ne_nil hplain), argumentTokens, keyword?_append,
      keyword?_append]
    have hdefault :
        keyword? "alias" (if r.optional then [[.word "default".toList, .mark '=', .word "None".toList]] else []) =
        none := by
      cases r.optional <;> rfl
    have hconstraint : keyword? "alias" rule.constraintTokens = none := by cases rule <;> rfl
    rw [hdefault, hconstraint, Option.none_or, Option.none_or]
    cases r.alias? <;> rfl

theorem oneLine_arguments {r : RequestField} {rule : Rule} (h : r.constraints = rule.constraints) :
    ∀ x ∈ r.arguments, OneLine x := by
  intro x hx
  simp only [arguments, List.mem_append, Option.mem_toList, Option.map_eq_some_iff, h] at hx
  rcases hx with (hx | hx) | ⟨name, -, rfl⟩
  · cases hoptional : r.optional with
    | false => simp [hoptional] at hx
    | true =>
      obtain rfl : x = "default=None" := by simpa [hoptional] using hx
      decide
  · revert x
    cases rule <;> decide
  · exact oneLine_append.2 ⟨by decide, oneLine_quoted name⟩

theorem oneLine_line {r : RequestField} {rule : Rule} (h : r.constraints = rule.constraints)
    (hattr : isPlainIdentifier r.attr.toList = true) : OneLine r.line := by
  have hannotated : OneLine r.annotation := by
    unfold annotation
    cases r.optional <;> cases r.type <;> decide
  have hinitialiser : OneLine r.initialiser := by
    unfold initialiser
    split
    · split <;> decide
    · exact oneLine_append.2
        ⟨oneLine_append.2 ⟨by decide, oneLine_intercalate (by decide) (oneLine_arguments h)⟩, by decide⟩
  have hname : OneLine r.attr := oneLine_of_part (forall_mem_of_isPlainIdentifier hattr)
  unfold line
  simp only [oneLine_append]
  exact ⟨⟨⟨⟨by decide, hname⟩, by decide⟩, hannotated⟩, hinitialiser⟩

end RequestField

/-! ## The line of the answer's attribute -/

namespace AnswerField

def valueTokens (a : AnswerField) : List Token :=
  match a.alias? with
  | none => []
  | some name =>
    .word "Field".toList :: .mark '(' :: (join [.mark ','] [aliasTokens "serialization_alias" name] ++ [.mark ')'])

def declaration (a : AnswerField) : Declaration where
  name := a.attr.toList
  annotation := annotationTokens a.optional a.binding.name
  value := a.valueTokens

theorem isArgument_alias (name : Wording) :
    IsArgument ("serialization_alias=".toList ++ (quoted name).toList) (aliasTokens "serialization_alias" name) :=
  IsArgument.keyword rfl (by simpa [quoted] using isArgument_literal name.signs)

theorem trails_initialiser (a : AnswerField) : Trails .escaped (match a.alias? with
    | none => ""
    | some name => " = Field(serialization_alias=" ++ quoted name ++ ")").toList (initialised a.valueTokens) := by
  unfold valueTokens
  cases a.alias? with
  | none => exact Trails.nil
  | some name =>
    have hopen : Closes .escaped "= Field(".toList [.mark '=', .word "Field".toList, .mark '('] := Closes.of_run rfl
    have hcall := (closes_call hopen (.cons (isArgument_alias name) .nil)).reads.trails
    have hfirst : " = Field(serialization_alias=".toList =
        ' ' :: "= Field(".toList ++ "serialization_alias=".toList := rfl
    simp only [String.toList_append, hfirst, List.append_assoc, List.cons_append, join] at hcall ⊢
    exact hcall

theorem declared?_line {a : AnswerField} (hattr : isPlainIdentifier a.attr.toList = true) :
    declared? a.line.toList = some a.declaration := by
  unfold line
  exact declared?_annotated hattr (reads_annotated a.optional (by cases a.binding <;> decide)) (annotationTokens_ne _ _)
    a.trails_initialiser

theorem keyword?_alias (a : AnswerField) : keyword? "serialization_alias" (callArguments a.valueTokens) =
    a.alias?.map (fun name => [.quoted '"' (name.signs.flatMap literalSign)]) := by
  unfold valueTokens
  cases a.alias? with
  | none => rfl
  | some name =>
    have harguments : List.Forall₂ IsArgument [_] [_] := .cons (isArgument_alias name) .nil
    simp only [callArguments_of_forall₂ harguments (by simp)]
    rfl

theorem oneLine_line {a : AnswerField} (hattr : isPlainIdentifier a.attr.toList = true) : OneLine a.line := by
  have hname : OneLine a.attr := oneLine_of_part (forall_mem_of_isPlainIdentifier hattr)
  unfold line
  simp only [oneLine_append]
  refine ⟨⟨⟨⟨by decide, hname⟩, by decide⟩, ?_⟩, ?_⟩
  · cases a.optional <;> cases a.binding <;> decide
  · cases a.alias? with
    | none => decide
    | some name => exact oneLine_append.2 ⟨oneLine_append.2 ⟨by decide, oneLine_quoted name⟩, by decide⟩

end AnswerField

namespace Schema

/-! ## The lines of a service -/

def serviceHeader (s : Schema) (suffix : String) : String := "class " ++ s.className ++ suffix ++ "(BaseModel):"

def requestClass (s : Schema) (suffix : String) (allOptional : Bool) : Block where
  header := s.serviceHeader suffix
  body := ["    model_config = ConfigDict(populate_by_name=True)", ""] ++
    (s.requestFields allOptional).map RequestField.line ++ ["", ""]

def answerClass (s : Schema) : Block where
  header := s.serviceHeader "Out"
  body := ["    model_config = ConfigDict(from_attributes=True)", "", "    id: int"] ++
    s.answerFields.map AnswerField.line ++ ["", ""]

/-- **The classes of the service**, in order. -/
def serviceClasses (s : Schema) : List Block :=
  (if s.operations.create then [s.requestClass "Create" false] else []) ++
    (if s.operations.update then [s.requestClass "Update" true] else []) ++ [s.answerClass]

def searchLine (s : Schema) : String := "def _get_or_404(db: Session, item_id: int) -> " ++ s.modelRef ++ ":"

def searchBody (s : Schema) : List String :=
  ["    item = db.get(" ++ s.modelRef ++ ", item_id)",
   "    if item is None:",
   "        raise HTTPException(status_code=404, detail=f\"" ++ s.className ++ " \x7bitem_id\x7d not found\")",
   "    return item"]

theorem answerBlock_eq (s : Schema) : s.answerBlock = s.answerClass.lines ++ [s.searchLine] ++ s.searchBody := by
  have hheader : "class " ++ s.className ++ "Out(BaseModel):" = s.serviceHeader "Out" := by
    have hout : "Out(BaseModel):" = "Out" ++ "(BaseModel):" := rfl
    rw [serviceHeader, hout, String.append_assoc, String.append_assoc, String.append_assoc]
  unfold answerBlock answerClass searchBody Block.lines
  simp only [hheader, List.append_assoc, List.cons_append, List.nil_append]
  rfl

theorem flatMap_requestBlock (s : Schema) : s.enabledOperations.flatMap s.requestBlock =
    (if s.operations.create then s.requestBlock .create else []) ++
      (if s.operations.update then s.requestBlock .update else []) := by
  have hfilter : ∀ l : List Operation, (l.filter s.operations.enabled).flatMap s.requestBlock =
      l.flatMap (fun o => cond (s.operations.enabled o) (s.requestBlock o) []) := by
    intro l
    induction l with
    | nil => rfl
    | cons o l ih =>
      rw [List.filter_cons, List.flatMap_cons, ← ih]
      cases s.operations.enabled o <;> rfl
  rw [enabledOperations, hfilter, Operation.all]
  simp only [List.flatMap_cons, List.flatMap_nil, Operations.enabled]
  cases s.operations.create <;> cases s.operations.read <;> cases s.operations.update <;> cases s.operations.delete <;>
    simp [requestBlock]

theorem requestBlocks_eq (s : Schema) : s.enabledOperations.flatMap s.requestBlock ++ s.answerClass.lines =
    s.serviceClasses.flatMap Block.lines := by
  have hrequest : ∀ suffix allOptional,
      s.requestModel suffix allOptional = (s.requestClass suffix allOptional).lines := by
    intro suffix allOptional
    unfold requestModel requestClass Block.lines
    simp only [List.cons_append, List.nil_append]
    rfl
  rw [flatMap_requestBlock, serviceClasses]
  simp only [requestBlock, hrequest]
  cases s.operations.create <;> cases s.operations.update <;> simp

theorem serviceLines_eq (s : Schema) : s.serviceLines = s.serviceHead ++ s.serviceClasses.flatMap Block.lines ++
    [s.searchLine] ++ (s.searchBody ++ s.endpoints.flatMap s.endpointBlock ++ serviceTail) := by
  rw [serviceLines, answerBlock_eq, ← requestBlocks_eq]
  simp only [List.append_assoc]

/-! ## Reading a service -/

theorem serviceHeader_head? (s : Schema) (suffix : String) : (s.serviceHeader suffix).toList.head? = some 'c' := by
  unfold serviceHeader
  rw [String.append_assoc, String.append_assoc, String.toList_append]
  rfl

theorem serviceHeader_inj {s : Schema} {a b : String} (h : s.serviceHeader a = s.serviceHeader b) : a = b := by
  have hlist := congrArg String.toList h
  simp only [serviceHeader, String.toList_append] at hlist
  exact String.toList_inj.1 (List.append_cancel_left (List.append_cancel_right hlist))

theorem forall_mem_serviceClasses {s : Schema} {P : Block → Prop} (hcreate : P (s.requestClass "Create" false))
    (hupdate : P (s.requestClass "Update" true)) (hanswer : P s.answerClass) : ∀ b ∈ s.serviceClasses, P b := by
  refine List.forall_mem_append.2 ⟨List.forall_mem_append.2 ⟨?_, ?_⟩, List.forall_mem_singleton.2 hanswer⟩
  · split
    · exact List.forall_mem_singleton.2 hcreate
    · exact List.forall_mem_nil P
  · split
    · exact List.forall_mem_singleton.2 hupdate
    · exact List.forall_mem_nil P

theorem apart_serviceClasses (s : Schema) : Block.Apart s.serviceClasses := by
  -- the classes of requests and that of the answer are built alike
  have hinner : ∀ {b : Block} {first : List String} {lines : List String}, b.body = first ++ lines ++ ["", ""] →
      (∀ l ∈ first, isInner l.toList = true) → (∀ l ∈ lines, isInner l.toList = true) →
        ∀ l ∈ b.body, isInner l.toList = true := by
    intro b first lines hbody hfirst hlines
    rw [hbody]
    exact List.forall_mem_append.2 ⟨List.forall_mem_append.2 ⟨hfirst, hlines⟩, by decide⟩
  have hrequest : ∀ suffix allOptional, ∀ l ∈ (s.requestClass suffix allOptional).body, isInner l.toList = true :=
    fun suffix allOptional => hinner rfl (by decide) (List.forall_mem_map.2 (fun r _ => by
      unfold RequestField.line
      rw [String.append_assoc, String.append_assoc, String.append_assoc]
      exact isInner_append rfl))
  have hanswer : ∀ l ∈ s.answerClass.body, isInner l.toList = true :=
    hinner rfl (by decide) (List.forall_mem_map.2 (fun a _ => by
      unfold AnswerField.line
      rw [String.append_assoc, String.append_assoc, String.append_assoc]
      exact isInner_append rfl))
  have hheader : ∀ suffix, isInner (s.serviceHeader suffix).toList = false := fun suffix => by
    have hhead := s.serviceHeader_head? suffix
    cases hlist : (s.serviceHeader suffix).toList with
    | nil => simp [hlist] at hhead
    | cons c l =>
      obtain rfl : c = 'c' := by simpa [hlist] using hhead
      rfl
  refine ⟨?_, forall_mem_serviceClasses (hheader _) (hheader _) (hheader _),
    forall_mem_serviceClasses (hrequest _ _) (hrequest _ _) hanswer⟩
  have hsuffixes : s.serviceClasses.map Block.header = ((if s.operations.create then ["Create"] else []) ++
      (if s.operations.update then ["Update"] else []) ++ ["Out"]).map s.serviceHeader := by
    unfold serviceClasses
    cases s.operations.create <;> cases s.operations.update <;> rfl
  rw [hsuffixes]
  refine List.Nodup.map (fun a b => serviceHeader_inj) ?_
  cases s.operations.create <;> cases s.operations.update <;> decide

theorem serviceHeader_not_mem (s : Schema) (suffix : String) : s.serviceHeader suffix ∉ s.serviceHead := by
  have hliteral : ∀ {l : List Char}, l.head? ≠ some 'c' → (String.ofList l).toList.head? ≠ some 'c' := fun h => by
    rwa [String.toList_ofList]
  have happ : ("app = FastAPI(title=\"" ++ s.className ++ " API\")").toList.head? = some 'a' := by
    rw [String.append_assoc, String.toList_append]
    rfl
  -- some of the lines depend on the schema, but none of them in its first character
  have hother : ∀ l ∈ s.serviceHead, l.toList.head? ≠ some 'c' := by
    unfold serviceHead
    refine List.forall_mem_append.2 ⟨List.forall_mem_append.2 ⟨?_, ?_⟩, ?_⟩
    · exact List.forall_mem_singleton.2 (hliteral (by decide))
    · split
      · exact List.forall_mem_singleton.2 (hliteral (by decide))
      · exact List.forall_mem_nil _
    · simp only [List.forall_mem_cons, List.not_mem_nil, false_implies, implies_true, and_true]
      and_intros <;> first | (rw [happ]; decide) | exact hliteral (by decide)
  exact fun hmem => hother _ hmem (s.serviceHeader_head? suffix)

namespace Named

variable {s : Schema}

theorem oneLine_serviceHeader (h : s.Named) {suffix : String} (hsuffix : OneLine suffix) :
    OneLine (s.serviceHeader suffix) := by
  have hname : OneLine s.className := oneLine_of_part h.allParts_className
  unfold serviceHeader
  exact oneLine_append.2 ⟨oneLine_append.2 ⟨oneLine_append.2 ⟨by decide, hname⟩, hsuffix⟩, by decide⟩

theorem oneLine_serviceClasses (h : s.Named) : ∀ b ∈ s.serviceClasses, ∀ l ∈ b.lines, OneLine l := by
  have hfields : ∀ allOptional, ∀ l ∈ (s.requestFields allOptional).map RequestField.line, OneLine l := by
    intro allOptional
    exact List.forall_mem_map.2 (List.forall_mem_map.2 (fun p hp =>
      RequestField.oneLine_line rfl (h.isPlainIdentifier_attr hp)))
  have hrequest : ∀ suffix allOptional, OneLine suffix → ∀ l ∈ (s.requestClass suffix allOptional).lines,
      OneLine l := by
    intro suffix allOptional hsuffix
    refine List.forall_mem_cons.2 ⟨h.oneLine_serviceHeader hsuffix, List.forall_mem_append.2
      ⟨List.forall_mem_append.2 ⟨by decide, hfields allOptional⟩, by decide⟩⟩
  have hanswer : ∀ l ∈ s.answerClass.lines, OneLine l := by
    refine List.forall_mem_cons.2 ⟨h.oneLine_serviceHeader (by decide), List.forall_mem_append.2
      ⟨List.forall_mem_append.2 ⟨by decide, ?_⟩, by decide⟩⟩
    exact List.forall_mem_map.2 (List.forall_mem_map.2 (fun p hp =>
      AnswerField.oneLine_line (h.isPlainIdentifier_attr hp)))
  exact forall_mem_serviceClasses (hrequest _ _ (by decide)) (hrequest _ _ (by decide)) hanswer

theorem oneLine_serviceHead (h : s.Named) : ∀ l ∈ s.serviceHead, OneLine l := by
  have happ : OneLine ("app = FastAPI(title=\"" ++ s.className ++ " API\")") :=
    oneLine_append.2 ⟨oneLine_append.2 ⟨by decide, oneLine_of_part h.allParts_className⟩, by decide⟩
  unfold serviceHead
  refine List.forall_mem_append.2 ⟨List.forall_mem_append.2 ⟨?_, ?_⟩, ?_⟩
  · exact List.forall_mem_singleton.2 (oneLine_ofList (by decide))
  · split
    · exact List.forall_mem_singleton.2 (oneLine_ofList (by decide))
    · exact List.forall_mem_nil _
  · simp only [List.forall_mem_cons, List.not_mem_nil, false_implies, implies_true, happ, true_and, and_true]
    and_intros <;> exact oneLine_ofList (by decide)

/-- **The classes of the service are found again** in its text. -/
theorem blockAfter_service (h : s.Named) {b : Block} (hb : b ∈ s.serviceClasses) :
    blockAfter b.header (textLines s.service) = b.body.map String.toList := by
  have hsearch : OneLine s.searchLine := by
    have hname : OneLine s.modelRef :=
      oneLine_append.2 ⟨by decide, oneLine_of_part h.allParts_className⟩
    unfold searchLine
    exact oneLine_append.2 ⟨oneLine_append.2 ⟨by decide, hname⟩, by decide⟩
  have hlines : ∀ l ∈ s.serviceHead ++ s.serviceClasses.flatMap Block.lines ++ [s.searchLine], OneLine l := by
    refine List.forall_mem_append.2 ⟨List.forall_mem_append.2 ⟨h.oneLine_serviceHead, fun l hl => ?_⟩,
      List.forall_mem_singleton.2 hsearch⟩
    obtain ⟨b, hb, hl⟩ := List.mem_flatMap.1 hl
    exact h.oneLine_serviceClasses b hb l hl
  have hnext : isInner s.searchLine.toList = false := by
    unfold searchLine
    rw [String.append_assoc, String.toList_append]
    rfl
  have hpre : ∀ b ∈ s.serviceClasses, b.header ∉ s.serviceHead :=
    forall_mem_serviceClasses (s.serviceHeader_not_mem _) (s.serviceHeader_not_mem _) (s.serviceHeader_not_mem _)
  rw [service, serviceLines_eq, textLines_append (by simp) hlines]
  exact Block.blockAfter_eq s.apart_serviceClasses hpre hnext _ hb

end Named

def serviceClass (s : Schema) (suffix : String) : List (List Char) :=
  blockAfter (s.serviceHeader suffix) (textLines s.service)

def requestDeclarations (s : Schema) (allOptional : Bool) : List Declaration :=
  s.attributes.map (fun p => (p.1.requestField allOptional p.2).declaration p.1.type.mapping.rule)

def answerDeclarations (s : Schema) : List Declaration :=
  ⟨"id".toList, [.word "int".toList], []⟩ :: s.attributes.map (fun p => (p.1.answerField p.2).declaration)

theorem Named.declarations_request {s : Schema} (h : s.Named) {suffix : String} {allOptional : Bool}
    (hb : s.requestClass suffix allOptional ∈ s.serviceClasses) :
    declarations (s.serviceClass suffix) = s.requestDeclarations allOptional := by
  have hfirst : ∀ l ∈ ["    model_config = ConfigDict(populate_by_name=True)", ""], declared? l.toList = none := by
    decide
  have hlast : ∀ l ∈ ["", ""], declared? l.toList = none := by decide
  have hfields : declarations (((s.requestFields allOptional).map RequestField.line).map String.toList) =
      s.requestDeclarations allOptional := by
    have hdeclared : ∀ p ∈ s.attributes, declared? (p.1.requestField allOptional p.2).line.toList =
        some ((p.1.requestField allOptional p.2).declaration p.1.type.mapping.rule) := fun p hp =>
      RequestField.declared?_line rfl (h.isPlainIdentifier_attr hp)
    have hlines : (s.requestFields allOptional).map RequestField.line =
        s.attributes.map (fun p => (p.1.requestField allOptional p.2).line) := List.map_map
    rw [hlines]
    exact declarations_map hdeclared
  have hblock := h.blockAfter_service hb
  rw [serviceClass]
  refine (congrArg declarations hblock).trans ?_
  rw [requestClass, List.map_append, List.map_append, declarations_append, declarations_append,
    declarations_eq_nil hfirst, declarations_eq_nil hlast, hfields, List.nil_append, List.append_nil]

theorem Named.declarations_answer {s : Schema} (h : s.Named) :
    declarations (s.serviceClass "Out") = s.answerDeclarations := by
  have hfirst : declarations
      ((["    model_config = ConfigDict(from_attributes=True)", "", "    id: int"]).map String.toList) =
      [⟨"id".toList, [.word "int".toList], []⟩] := by decide
  have hlast : ∀ l ∈ ["", ""], declared? l.toList = none := by decide
  have hfields : declarations ((s.answerFields.map AnswerField.line).map String.toList) =
      s.attributes.map (fun p => (p.1.answerField p.2).declaration) := by
    have hdeclared : ∀ p ∈ s.attributes, declared? (p.1.answerField p.2).line.toList =
        some (p.1.answerField p.2).declaration := fun p hp => AnswerField.declared?_line (h.isPlainIdentifier_attr hp)
    have hlines : s.answerFields.map AnswerField.line = s.attributes.map (fun p => (p.1.answerField p.2).line) :=
      List.map_map
    rw [hlines]
    exact declarations_map hdeclared
  have hblock := h.blockAfter_service (List.mem_append_right _ (List.mem_singleton_self s.answerClass))
  rw [serviceClass]
  refine (congrArg declarations hblock).trans ?_
  rw [answerClass, List.map_append, List.map_append, declarations_append, declarations_append, hfirst,
    declarations_eq_nil hlast, hfields, List.append_nil]
  rfl

end Schema
end Scaffold
