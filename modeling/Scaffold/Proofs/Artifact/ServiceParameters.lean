import Scaffold.Proofs.Artifact.Compilation
import Scaffold.Proofs.Artifact.ServiceText
/-!
# Proofs.Artifact.ServiceParameters — which parameters a service takes

The text of a service is cut at its at signs, and behind each of them a decorator is read with the function under it:
the method, the path and the names of the parameters.  An at sign stands nowhere else in the service of an accepted
schema, so the first function that is read for the path of the collection is that of the list, and what it takes is seen
in the text (`Accepted.parameters?_list`).
-/
namespace Scaffold

open Naming Source Text

namespace Service

/-- **A function with its route**: the method and the path of the decorator, and the names of the parameters. -/
structure Routine where
  method : List Char
  path : List Char
  parameters : List (List Char)
deriving DecidableEq, Repr

def firstWord? : List Token → Option (List Char)
  | .word w :: _ => some w
  | _ => none

/-- **The names of the parameters** of the function behind the call of its decorator. -/
def parameterNames (ts : List Token) : List (List Char) :=
  (callArguments (ts.dropWhile (fun t => decide (t ≠ .mark ')')))).filterMap firstWord?

def routine? (l : List Char) : Option Routine :=
  match tokens .escaped l with
  | .word app :: .mark '.' :: .word method :: .mark '(' :: .quoted '"' path :: ts =>
    if app = "app".toList then some ⟨method, path, parameterNames ts⟩ else none
  | _ => none

def routinesOf (service : String) : List Routine := (split '@' service.toList).filterMap routine?

def parameters? (service : String) (method path : List Char) : Option (List (List Char)) :=
  ((routinesOf service).find? (fun r => decide (r.method = method ∧ r.path = path))).map Routine.parameters

/-! ## Reading a function -/

theorem routine?_route {method : String} (hmethod : isPlainIdentifier method.toList = true) {path : List Char}
    (hpath : Inside path) (rest : List Char) :
    routine? ("app.".toList ++ method.toList ++ ['('] ++ ('"' :: path ++ ['"']) ++ rest) =
      some ⟨method.toList, path, parameterNames (tokens .escaped rest)⟩ := by
  have happ : Closes .escaped "app.".toList [.word "app".toList, .mark '.'] := Closes.of_run (by decide +kernel)
  have hopen : Closes .escaped ['('] [.mark '('] := Closes.of_run rfl
  have hreads := ((happ.append_reads (reads_plainIdentifier hmethod)).append_closes hopen
    (fun rest => separated_cons_append rfl [] rest)).append hpath.closes rest
  rw [routine?, hreads]
  rfl

theorem parameterNames_eq {call name : List Token} {params : List (List Token)} (hcall : ∀ t ∈ call, t ≠ .mark ')')
    (hname : ∀ t ∈ name, t ≠ .mark '(') (hne : params ≠ []) (hlevel : ∀ p ∈ params, Level p) (rest : List Token) :
    parameterNames (call ++ .mark ')' :: (name ++ .mark '(' :: (join [.mark ','] params ++ .mark ')' :: rest))) =
      params.filterMap firstWord? := by
  have hpass : ∀ t ∈ call, decide (t ≠ .mark ')') = true := fun t ht => decide_eq_true (hcall t ht)
  have hargs := callArguments_call (.mark ')' :: name) (List.forall_mem_cons.2 ⟨by simp, hname⟩) hne hlevel rest
  rw [parameterNames, List.dropWhile_append_of_pos hpass, List.dropWhile_cons, if_neg (by simp)]
  rw [List.cons_append] at hargs
  rw [hargs]

/-! ## Texts of lines -/

def linesText (lines : List String) : List Char := (lines.map String.toList).flatMap (fun l => l ++ ['\n'])

theorem linesText_append (a b : List String) : linesText (a ++ b) = linesText a ++ linesText b := by
  rw [linesText, List.map_append, List.flatMap_append]
  rfl

theorem linesText_cons (l : String) (lines : List String) :
    linesText (l :: lines) = l.toList ++ '\n' :: linesText lines := by
  rw [linesText, List.map_cons, List.flatMap_cons, List.append_assoc]
  rfl

theorem at_not_mem_linesText {lines : List String} (h : ∀ l ∈ lines, Lacks '@' l) : '@' ∉ linesText lines := by
  intro hmem
  obtain ⟨l, hl, hmem⟩ := List.mem_flatMap.1 hmem
  obtain ⟨x, hx, rfl⟩ := List.mem_map.1 hl
  rcases List.mem_append.1 hmem with hmem | hmem
  · exact h x hx hmem
  · cases List.mem_singleton.1 hmem

end Service

namespace Schema

open Service

theorem isWordChar_or_isBlank_of_nameChars {l : List Char} (h : AllNameChars l) :
    ∀ c ∈ l, isWordChar c = true ∨ isBlank c = true := fun c hc => by
  rcases h c hc with hpart | rfl
  · exact .inl (isWordChar_of_part hpart)
  · exact .inr (by decide)

/-! ## At signs -/

theorem lacks_at_of_nameChars {t : String} (h : AllNameChars t.toList) : Lacks '@' t := fun hmem => by
  rcases h _ hmem with hpart | hfeed
  · cases hpart
  · cases hfeed

namespace Accepted

variable {s : Schema}

theorem lacks_at_className (h : s.Accepted) : Lacks '@' s.className := lacks_at_of_nameChars h.allNameChars_className

theorem lacks_at_modelRef (h : s.Accepted) : Lacks '@' s.modelRef :=
  lacks_append.2 ⟨lacks_ofList (by decide), h.lacks_at_className⟩

theorem lacks_at_quoted_name (h : s.Accepted) {f : Field} (hf : f ∈ s.dataFields) : Lacks '@' (quoted f.name) := by
  obtain ⟨hsigns, hchars⟩ := h.signs_name hf
  refine lacks_ofList (at_not_mem_literal (fun hmem => ?_))
  rw [hsigns] at hmem
  obtain ⟨c, hc, heq⟩ := List.mem_map.1 hmem
  obtain rfl := Sign.char.inj heq
  exact absurd (hchars _ hc) (by decide)

theorem lacks_at_quoted_alias (h : s.Accepted) {f : Field} (hf : f ∈ s.dataFields) {attr : String} {name : Wording}
    (halias : f.alias? attr = some name) : Lacks '@' (quoted name) := by
  unfold Field.alias? at halias
  split at halias
  · cases halias
  · obtain rfl := Option.some.inj halias
    exact h.lacks_at_quoted_name hf

theorem lacks_at_requestLine (h : s.Accepted) {p : Field × String} (hp : p ∈ s.attributes) (allOptional : Bool) :
    Lacks '@' (p.1.requestField allOptional p.2).line := by
  have hannotated : Lacks '@' <| RequestField.annotation (p.1.requestField allOptional p.2) := by
    unfold RequestField.annotation
    cases (p.1.requestField allOptional p.2).optional <;> cases (p.1.requestField allOptional p.2).type <;> decide
  have harguments : ∀ x ∈ (p.1.requestField allOptional p.2).arguments, Lacks '@' x := by
    refine List.forall_mem_append.2 ⟨List.forall_mem_append.2 ⟨?_, ?_⟩, fun x hx => ?_⟩
    · cases (p.1.requestField allOptional p.2).optional <;> decide
    · have hrule : ∀ rule : Rule, ∀ x ∈ rule.constraints, Lacks '@' x := by rintro (_ | _ | _ | _ | _ | _) <;> decide
      exact hrule _
    · rw [Option.mem_toList, Option.map_eq_some_iff] at hx
      obtain ⟨name, hname, rfl⟩ := hx
      exact lacks_append.2 ⟨lacks_ofList (by decide),
        h.lacks_at_quoted_alias (mem_dataFields_of_mem_attributes hp) hname⟩
  have hinitialiser : Lacks '@' (p.1.requestField allOptional p.2).initialiser := by
    unfold RequestField.initialiser
    split
    · split <;> decide
    · exact lacks_append.2 ⟨lacks_append.2 ⟨lacks_ofList (by decide), lacks_intercalate (by decide) harguments⟩,
        lacks_ofList (by decide)⟩
  unfold RequestField.line
  simp only [lacks_append, hannotated, hinitialiser, and_true]
  exact ⟨⟨lacks_ofList (by decide), lacks_at_of_nameChars (h.allNameChars_attr hp)⟩, lacks_ofList (by decide)⟩

theorem lacks_at_answerLine (h : s.Accepted) {p : Field × String} (hp : p ∈ s.attributes) :
    Lacks '@' (p.1.answerField p.2).line := by
  have hannotated : Lacks '@' (if (p.1.answerField p.2).optional
      then "Optional[" ++ (p.1.answerField p.2).binding.name ++ "]"
      else (p.1.answerField p.2).binding.name) := by
    cases (p.1.answerField p.2).optional <;> cases (p.1.answerField p.2).binding <;> decide
  unfold AnswerField.line
  simp only [lacks_append, hannotated, and_true]
  refine ⟨⟨⟨lacks_ofList (by decide), lacks_at_of_nameChars (h.allNameChars_attr hp)⟩, lacks_ofList (by decide)⟩, ?_⟩
  cases halias : (p.1.answerField p.2).alias? with
  | none => decide
  | some name =>
    exact lacks_append.2 ⟨lacks_append.2 ⟨lacks_ofList (by decide),
      h.lacks_at_quoted_alias (mem_dataFields_of_mem_attributes hp) halias⟩, lacks_ofList (by decide)⟩

theorem lacks_at_serviceHead (h : s.Accepted) : ∀ l ∈ s.serviceHead, Lacks '@' l := by
  have happ : Lacks '@' ("app = FastAPI(title=\"" ++ s.className ++ " API\")") :=
    lacks_append.2 ⟨lacks_append.2 ⟨lacks_ofList (by decide), h.lacks_at_className⟩, lacks_ofList (by decide)⟩
  unfold serviceHead
  refine List.forall_mem_append.2 ⟨List.forall_mem_append.2 ⟨?_, ?_⟩, ?_⟩
  · exact List.forall_mem_singleton.2 (lacks_ofList (by decide))
  · split
    · exact List.forall_mem_singleton.2 (lacks_ofList (by decide))
    · exact List.forall_mem_nil _
  · simp only [List.forall_mem_cons, List.not_mem_nil, false_implies, implies_true, happ, true_and, and_true]
    and_intros <;> exact lacks_ofList (by decide)

theorem lacks_at_serviceClasses (h : s.Accepted) : ∀ b ∈ s.serviceClasses, ∀ l ∈ b.lines, Lacks '@' l := by
  have hheader : ∀ suffix, Lacks '@' suffix → Lacks '@' (s.serviceHeader suffix) := fun suffix hsuffix => by
    unfold serviceHeader
    exact lacks_append.2 ⟨lacks_append.2 ⟨lacks_append.2 ⟨lacks_ofList (by decide), h.lacks_at_className⟩, hsuffix⟩,
      lacks_ofList (by decide)⟩
  have hrequest : ∀ suffix allOptional, Lacks '@' suffix → ∀ l ∈ (s.requestClass suffix allOptional).lines,
      Lacks '@' l := by
    intro suffix allOptional hsuffix
    refine List.forall_mem_cons.2 ⟨hheader _ hsuffix, List.forall_mem_append.2
      ⟨List.forall_mem_append.2 ⟨by decide, ?_⟩, by decide⟩⟩
    exact List.forall_mem_map.2 (List.forall_mem_map.2 (fun p hp => h.lacks_at_requestLine hp allOptional))
  have hanswer : ∀ l ∈ s.answerClass.lines, Lacks '@' l := by
    refine List.forall_mem_cons.2 ⟨hheader _ (by decide), List.forall_mem_append.2
      ⟨List.forall_mem_append.2 ⟨by decide, ?_⟩, by decide⟩⟩
    exact List.forall_mem_map.2 (List.forall_mem_map.2 (fun p hp => h.lacks_at_answerLine hp))
  exact forall_mem_serviceClasses (hrequest _ _ (by decide)) (hrequest _ _ (by decide)) hanswer

theorem lacks_at_search (h : s.Accepted) : ∀ l ∈ [s.searchLine] ++ s.searchBody, Lacks '@' l := by
  unfold searchLine searchBody
  simp only [List.cons_append, List.nil_append, List.forall_mem_cons, List.not_mem_nil, false_implies, implies_true,
    and_true, lacks_append, h.lacks_at_modelRef, h.lacks_at_className]
  and_intros <;> exact lacks_ofList (by decide)

end Accepted

/-! ## The list -/

def listParameters (s : Schema) : List (List Token) :=
  if s.paginate then
    [tokens .escaped "limit: int = Query(50, ge=1, le=500)".toList,
      tokens .escaped "offset: int = Query(0, ge=0)".toList,
      tokens .escaped "db: Session = Depends(_db_session)".toList, []]
  else [tokens .escaped "db: Session = Depends(_db_session)".toList]

theorem level_listParameters (s : Schema) : s.listParameters ≠ [] ∧ ∀ p ∈ s.listParameters, Level p := by
  unfold listParameters Level
  cases s.paginate <;> decide +kernel

theorem filterMap_listParameters (s : Schema) : s.listParameters.filterMap firstWord? =
    if s.paginate then ["limit".toList, "offset".toList, "db".toList] else ["db".toList] := by
  unfold listParameters
  cases s.paginate <;> decide +kernel

theorem exists_listLines_eq (s : Schema) : ∃ opening parameters query,
    s.listLines = ("def list_" ++ s.tableName ++ opening) :: (parameters ++ [query]) ∧
    (linesText (opening :: parameters)).head? = some '(' ∧
    Closes .escaped (linesText (opening :: parameters))
      (.mark '(' :: (join [.mark ','] s.listParameters ++ [.mark ')', .mark ':'])) := by
  unfold listLines listParameters
  cases s.paginate with
  | false =>
    exact ⟨"(db: Session = Depends(_db_session)):", [], _, rfl, by decide +kernel, Closes.of_run (by decide +kernel)⟩
  | true =>
    exact ⟨"(", ["    limit: int = Query(" ++ toString defaultPageSize ++ ", ge=1, le=" ++ toString maxPageSize ++ "),",
      "    offset: int = Query(0, ge=0),", "    db: Session = Depends(_db_session),", "):"], _, rfl, by decide +kernel,
      Closes.of_run (by decide +kernel)⟩

def routeText (s : Schema) (e : Endpoint) : List Char :=
  "app.".toList ++ e.method.toList ++ ['('] ++ ('"' :: s.collectionPath.toList ++ ['"'])

theorem linesText_endpointBlock {s : Schema} {e : Endpoint} (he : e.ofItem = false) {arguments : String}
    {body : List String} (h : s.endpointLines e = s.routeLine e arguments :: body) :
    linesText (s.endpointBlock e) =
      ['\n', '\n'] ++ '@' :: (s.routeText e ++ ((", " ++ arguments ++ ")").toList ++ '\n' :: linesText body)) := by
  have hroute : (s.routeLine e arguments).toList = '@' :: (s.routeText e ++ (", " ++ arguments ++ ")").toList) := by
    unfold routeLine routeText
    simp [he]
  rw [endpointBlock, h, linesText_append, linesText_cons (s.routeLine e arguments), hroute]
  simp [linesText]

namespace Accepted

variable {s : Schema}

theorem inside_collectionPath (h : s.Accepted) : Inside s.collectionPath.toList := inside_of_forall (fun c hc => by
  rcases h.mem_collectionPath c hc with rfl | (hpart | rfl) | rfl
  · decide
  · exact (isPlain_of_part hpart).2
  · decide
  · decide)

theorem at_not_mem_routeText (h : s.Accepted) (e : Endpoint) : '@' ∉ s.routeText e := by
  have hpath : '@' ∉ s.collectionPath.toList := fun hmem => by
    rcases h.mem_collectionPath _ hmem with heq | (hpart | heq) | heq
    · cases heq
    · cases hpart
    · cases heq
    · cases heq
  have hmethod : '@' ∉ e.method.toList := by cases e <;> decide
  have hcall : '@' ∉ "app.".toList ++ e.method.toList ++ ['('] :=
    List.not_mem_append (List.not_mem_append (by decide) hmethod) (by decide)
  exact List.not_mem_append hcall
    (List.not_mem_append (List.not_mem_cons_of_ne_of_not_mem (by decide) hpath) (by decide))

theorem routine?_routeText (h : s.Accepted) (e : Endpoint) (rest : List Char) : routine? (s.routeText e ++ rest) =
    some ⟨e.method.toList, s.collectionPath.toList, parameterNames (tokens .escaped rest)⟩ :=
  routine?_route (by cases e <;> decide) h.inside_collectionPath rest

theorem at_not_mem_endpointText (h : s.Accepted) (e : Endpoint) {arguments : String} {body : List String}
    (harguments : Lacks '@' arguments) (hbody : ∀ l ∈ body, Lacks '@' l) :
    '@' ∉ s.routeText e ++ ((", " ++ arguments ++ ")").toList ++ '\n' :: linesText body) := by
  have hcall : Lacks '@' (", " ++ arguments ++ ")") :=
    lacks_append.2 ⟨lacks_append.2 ⟨lacks_ofList (by decide), harguments⟩, lacks_ofList (by decide)⟩
  rw [List.mem_append, List.mem_append, List.mem_cons]
  rintro (hmem | hmem | heq | hmem)
  · exact h.at_not_mem_routeText e hmem
  · exact hcall hmem
  · cases heq
  · exact at_not_mem_linesText hbody hmem

theorem exists_createText (h : s.Accepted) : ∃ text, linesText (s.endpointBlock .create) = ['\n', '\n'] ++ '@' :: text ∧
    '@' ∉ text ∧ ∀ rest, ∃ parameters, routine? (text ++ rest) =
      some ⟨"post".toList, s.collectionPath.toList, parameters⟩ := by
  have hrow := lacks_at_of_nameChars h.allNameChars_rowName
  have hlacks : Lacks '@' ("response_model=" ++ s.className ++ "Out, status_code=201") ∧
      ∀ l ∈ (s.endpointLines .create).tail, Lacks '@' l := by
    simp only [endpointLines, List.tail_cons, List.forall_mem_cons, List.not_mem_nil, false_implies, implies_true,
      and_true, lacks_append, hrow, h.lacks_at_modelRef, h.lacks_at_className]
    and_intros <;> exact lacks_ofList (by decide)
  refine ⟨_, linesText_endpointBlock rfl rfl, h.at_not_mem_endpointText .create hlacks.1 hlacks.2, fun rest => ?_⟩
  rw [List.append_assoc]
  exact ⟨_, h.routine?_routeText .create _⟩

theorem exists_reads_answer (h : s.Accepted) :
    ∃ ts, (∀ t ∈ ts, ∃ w, t = .word w) ∧ Reads .escaped (s.className.toList ++ "Out".toList) ts := by
  have hout : ∀ c ∈ "Out".toList, isWordChar c = true := List.all_eq_true.1 (by decide)
  exact exists_reads_words .escaped (List.forall_mem_append.2
    ⟨isWordChar_or_isBlank_of_nameChars h.allNameChars_className, fun c hc => .inl (hout c hc)⟩)

theorem exists_reads_listName (h : s.Accepted) :
    ∃ ts, (∀ t ∈ ts, ∃ w, t = .word w) ∧ Reads .escaped ("def list_".toList ++ s.tableName.toList) ts := by
  have hdef : ∀ c ∈ "def list_".toList, (isWordChar c || isBlank c) = true := List.all_eq_true.1 (by decide)
  exact exists_reads_words .escaped (List.forall_mem_append.2
    ⟨fun c hc => Bool.or_eq_true_iff.1 (hdef c hc), isWordChar_or_isBlank_of_nameChars h.allNameChars_tableName⟩)

theorem parameterNames_listLines (h : s.Accepted) (rest : List Char) :
    parameterNames (tokens .escaped ((", " ++ ("response_model=List[" ++ s.className ++ "Out]") ++ ")").toList ++
      '\n' :: (linesText s.listLines ++ rest))) = s.listParameters.filterMap firstWord? := by
  obtain ⟨opening, parameters, query, hlines, hhead, hparameters⟩ := s.exists_listLines_eq
  obtain ⟨answer, hwords, hanswer⟩ := h.exists_reads_answer
  obtain ⟨name, hnames, hname⟩ := h.exists_reads_listName
  have hcall : Closes .escaped ", response_model=List[".toList
      [.mark ',', .word "response_model".toList, .mark '=', .word "List".toList, .mark '['] :=
        Closes.of_run (by decide +kernel)
  have hclose : Closes .escaped [']', ')', '\n'] [.mark ']', .mark ')'] := Closes.of_run rfl
  have hopens : ∀ rest, Separated (linesText (opening :: parameters) ++ rest) := fun rest c hc => by
    rw [List.head?_append, hhead] at hc
    obtain rfl := Option.some.inj hc
    rfl
  have hlist := (hcall.append_reads hanswer).append_closes hclose (fun rest => separated_cons_append rfl _ rest)
  have hreads := (hlist.append_reads hname).append_closes hparameters hopens (linesText [query] ++ rest)
  have htext : (", " ++ ("response_model=List[" ++ s.className ++ "Out]") ++ ")").toList ++
      '\n' :: (linesText s.listLines ++ rest) = ", response_model=List[".toList ++
        (s.className.toList ++ "Out".toList) ++ [']', ')', '\n'] ++ ("def list_".toList ++ s.tableName.toList) ++
          linesText (opening :: parameters) ++ (linesText [query] ++ rest) := by
    rw [hlines]
    simp [linesText, String.toList_append]
  have hmarks : ∀ {ts : List Token} {c : Char}, (∀ t ∈ ts, ∃ w, t = .word w) → ∀ t ∈ ts, t ≠ .mark c := by
    intro ts c hts t ht
    obtain ⟨w, rfl⟩ := hts t ht
    simp
  have hcalled : ∀ t ∈ [.mark ',', .word "response_model".toList, .mark '=', .word "List".toList, .mark '['] ++
      answer ++ [.mark ']'], t ≠ .mark ')' :=
    List.forall_mem_append.2 ⟨List.forall_mem_append.2 ⟨by decide, hmarks hwords⟩, by decide⟩
  have hfound := parameterNames_eq hcalled (hmarks hnames) s.level_listParameters.1 s.level_listParameters.2
    (.mark ':' :: tokens .escaped (linesText [query] ++ rest))
  rw [htext, hreads, ← hfound]
  simp only [List.append_assoc, List.cons_append, List.nil_append]

/-- **The text of the list** behind its at sign: no other stands in it, and the function that is read has the parameters
of the list, whatever follows. -/
theorem exists_listText (h : s.Accepted) : ∃ text, linesText (s.endpointBlock .list) = ['\n', '\n'] ++ '@' :: text ∧
    '@' ∉ text ∧ ∀ rest, routine? (text ++ rest) =
      some ⟨"get".toList, s.collectionPath.toList, s.listParameters.filterMap firstWord?⟩ := by
  have htable := lacks_at_of_nameChars h.allNameChars_tableName
  have hnumbers : Lacks '@' (toString defaultPageSize) ∧ Lacks '@' (toString maxPageSize) ∧ Lacks '@' identityName := by
    decide +kernel
  have hlist : ∀ l ∈ s.listLines, Lacks '@' l := by
    unfold listLines
    split <;> simp only [List.forall_mem_cons, List.not_mem_nil, false_implies, implies_true, and_true, lacks_append,
      htable, hnumbers, h.lacks_at_modelRef]
    all_goals and_intros <;> exact lacks_ofList (by decide)
  have harguments : Lacks '@' ("response_model=List[" ++ s.className ++ "Out]") :=
    lacks_append.2 ⟨lacks_append.2 ⟨lacks_ofList (by decide), h.lacks_at_className⟩, lacks_ofList (by decide)⟩
  have hbody : ∀ l ∈ s.listLines ++ ["    return db.scalars(stmt).all()"], Lacks '@' l :=
    List.forall_mem_append.2 ⟨hlist, List.forall_mem_singleton.2 (lacks_ofList (by decide))⟩
  have hlines : s.endpointLines .list = s.routeLine .list ("response_model=List[" ++ s.className ++ "Out]") ::
      (s.listLines ++ ["    return db.scalars(stmt).all()"]) := rfl
  refine ⟨_, linesText_endpointBlock rfl hlines, h.at_not_mem_endpointText .list harguments hbody, fun rest => ?_⟩
  have hfound := h.parameterNames_listLines (linesText ["    return db.scalars(stmt).all()"] ++ rest)
  rw [List.append_assoc, h.routine?_routeText, linesText_append, ← hfound]
  simp only [List.append_assoc, List.cons_append]
  rfl

/-! ## The functions of the text -/

theorem exists_endpoints_eq (hread : s.operations.read = true) :
    ∃ more, s.endpoints = (if s.operations.create then [.create] else []) ++ .list :: more := by
  unfold endpoints enabledOperations Operation.all
  simp only [List.filter_cons, List.filter_nil, Operations.enabled, hread]
  cases s.operations.create with
  | false => exact ⟨_, rfl⟩
  | true => exact ⟨_, rfl⟩

theorem exists_frontText (h : s.Accepted) : ∃ front, '@' ∉ front ∧ (∀ rest, routine? (front ++ rest) = none) ∧
    s.service.toList = front ++ linesText (s.endpoints.flatMap s.endpointBlock) ++ linesText serviceTail := by
  refine ⟨linesText (s.serviceHead ++ s.serviceClasses.flatMap Block.lines ++ ([s.searchLine] ++ s.searchBody)),
    at_not_mem_linesText (List.forall_mem_append.2 ⟨List.forall_mem_append.2 ⟨h.lacks_at_serviceHead, fun l hl => ?_⟩,
      h.lacks_at_search⟩), fun rest => ?_, ?_⟩
  · obtain ⟨b, hb, hl⟩ := List.mem_flatMap.1 hl
    exact h.lacks_at_serviceClasses b hb l hl
  · have himport : Closes .escaped "import os\n".toList [.word "import".toList, .word "os".toList] :=
      Closes.of_run (by decide +kernel)
    have hbegin : ∃ more, s.serviceHead ++ s.serviceClasses.flatMap Block.lines ++ ([s.searchLine] ++ s.searchBody) =
        "import os" :: more := ⟨_, rfl⟩
    obtain ⟨more, hmore⟩ := hbegin
    have htext : linesText ("import os" :: more) ++ rest = "import os\n".toList ++ (linesText more ++ rest) := by
      simp [linesText_cons]
    rw [hmore, htext, routine?, himport]
    rfl
  · rw [service, toList_lines (by simp [serviceLines, serviceTail]), serviceLines_eq]
    have hlines : ∀ a b c d e f : List String,
        ((a ++ b ++ c ++ (d ++ e ++ f)).map String.toList).flatMap (fun l => l ++ ['\n']) =
          linesText (a ++ b ++ (c ++ d)) ++ linesText e ++ linesText f := fun a b c d e f => by
      simp [linesText, List.append_assoc]
    exact hlines _ _ _ _ _ _

/-- **What the service takes for its list**: the number of a page's rows and of those before it exactly if the schema is
paginated, and the session in any case. -/
theorem parameters?_list (h : s.Accepted) (hread : s.operations.read = true) :
    parameters? s.service "get".toList s.collectionPath.toList =
      some (if s.paginate then ["limit".toList, "offset".toList, "db".toList] else ["db".toList]) := by
  obtain ⟨front, hat, hnone, htext⟩ := h.exists_frontText
  obtain ⟨more, hmore⟩ := exists_endpoints_eq hread
  obtain ⟨create, hcreateText, hcreateAt, hcreate⟩ := h.exists_createText
  obtain ⟨list, hlistText, hlistAt, hlist⟩ := h.exists_listText
  have hbreak : ∀ {l : List Char}, '@' ∉ l → '@' ∉ l ++ ['\n', '\n'] := fun hl hmem =>
    (List.mem_append.1 hmem).elim hl (by decide)
  have hfound : ∀ rest, ∃ routines, (split '@' (list ++ rest)).filterMap routine? =
      ⟨"get".toList, s.collectionPath.toList, s.listParameters.filterMap firstWord?⟩ :: routines := fun rest => by
    obtain ⟨p, ps, hps⟩ := List.exists_cons_of_ne_nil (split_ne_nil '@' rest)
    rw [split_prefixed hlistAt, hps, prefixed, List.filterMap_cons_some (hlist p)]
    exact ⟨_, rfl⟩
  obtain ⟨routines, hroutines⟩ := hfound (linesText (more.flatMap s.endpointBlock) ++ linesText serviceTail)
  rw [← filterMap_listParameters, parameters?, routinesOf]
  cases hcreateOn : s.operations.create with
  | false =>
    rw [hcreateOn, if_neg Bool.false_ne_true, List.nil_append] at hmore
    have hparts : s.service.toList = (front ++ ['\n', '\n']) ++ '@' ::
        (list ++ (linesText (more.flatMap s.endpointBlock) ++ linesText serviceTail)) := by
      rw [htext, hmore, List.flatMap_cons, linesText_append, hlistText]
      simp
    rw [hparts, split_append_cons (hbreak hat), List.filterMap_cons_none (hnone _), hroutines,
      List.find?_cons_of_pos (by simp)]
    rfl
  | true =>
    rw [hcreateOn, if_pos rfl, List.singleton_append] at hmore
    have hparts : s.service.toList = (front ++ ['\n', '\n']) ++ '@' :: ((create ++ ['\n', '\n']) ++ '@' ::
        (list ++ (linesText (more.flatMap s.endpointBlock) ++ linesText serviceTail))) := by
      rw [htext, hmore, List.flatMap_cons, List.flatMap_cons, linesText_append, linesText_append, hcreateText,
        hlistText]
      simp
    obtain ⟨parameters, hpost⟩ := hcreate ['\n', '\n']
    rw [hparts, split_append_cons (hbreak hat), List.filterMap_cons_none (hnone _),
      split_append_cons (hbreak hcreateAt), List.filterMap_cons_some hpost, hroutines, List.find?_cons_of_neg (by simp),
      List.find?_cons_of_pos (by simp)]
    rfl

end Accepted

end Schema

end Scaffold
