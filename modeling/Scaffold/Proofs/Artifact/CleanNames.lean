import Scaffold.Proofs.Artifact.ComponentLines
import Scaffold.Proofs.Naming.TableName
import Scaffold.Url.Escape
/-!
# Proofs.Artifact.CleanNames — names that stand in an artifact as they are

The model and the service write the table, the path and the names of the functions without quoting anything.  That is
right for an entity whose name is an identifier with a letter or a digit: each of these texts is what quoting or
escaping would have made of it, and each function has a name that a function may have (`clean_names`).
-/
namespace Scaffold

open Naming Source Text

namespace Service

/-- **The name of the function that a line defines**: what stands before the parenthesis. -/
def defined? : List Char → Option (List Char)
  | 'd' :: 'e' :: 'f' :: ' ' :: rest => some (rest.takeWhile (· ≠ '('))
  | _ => none

def definedIn (lines : List String) : List (List Char) := (lines.map String.toList).filterMap defined?

theorem head?_begun {c : Char} {l : List Char} (rest : String) :
    (String.ofList (c :: l) ++ rest).toList.head? = some c := by
  rw [String.toList_append, String.toList_ofList]
  rfl

theorem head?_begun_ne {c d : Char} {l : List Char} (rest : String) (h : c ≠ d) :
    (String.ofList (c :: l) ++ rest).toList.head? ≠ some d := by
  rw [head?_begun]
  exact fun heq => h (Option.some.inj heq)

theorem defined?_definition (verb : List Char) {name rest : String} (hname : '(' ∉ verb ++ name.toList)
    (hrest : rest.toList.head? = some '(') :
    defined? (String.ofList ('d' :: 'e' :: 'f' :: ' ' :: verb) ++ name ++ rest).toList =
      some (verb ++ name.toList) := by
  obtain ⟨parameters, hparameters⟩ : ∃ parameters, rest.toList = '(' :: parameters := List.head?_eq_some_iff.1 hrest
  have htext : (String.ofList ('d' :: 'e' :: 'f' :: ' ' :: verb) ++ name ++ rest).toList =
      'd' :: 'e' :: 'f' :: ' ' :: (verb ++ name.toList ++ '(' :: parameters) := by
    simp [String.toList_append, hparameters]
  have hkept : ∀ c ∈ verb ++ name.toList, decide (c ≠ '(') = true := fun c hc =>
    decide_eq_true (fun heq : c = '(' => hname (heq ▸ hc))
  rw [htext, defined?, List.takeWhile_append_of_pos hkept, List.takeWhile_cons_of_neg (by simp), List.append_nil]

theorem defined?_eq_none {l : List Char} (h : l.head? ≠ some 'd') : defined? l = none := by
  unfold defined?
  split
  · exact absurd rfl h
  · rfl

theorem definedIn_eq_nil {lines : List String} (h : ∀ l ∈ lines, l.toList.head? ≠ some 'd') : definedIn lines = [] :=
  List.filterMap_eq_nil_iff.2 (List.forall_mem_map.2 (fun l hl => defined?_eq_none (h l hl)))

theorem definedIn_eq_singleton {route line : String} {body : List String} {name : List Char}
    (hroute : route.toList.head? ≠ some 'd') (hline : defined? line.toList = some name)
    (hbody : ∀ l ∈ body, l.toList.head? ≠ some 'd') : definedIn (route :: line :: body) = [name] := by
  have hnil := definedIn_eq_nil hbody
  rw [definedIn] at hnil ⊢
  rw [List.map_cons, List.map_cons, List.filterMap_cons_none (defined?_eq_none hroute), List.filterMap_cons_some hline,
    hnil]

end Service

namespace Url

theorem escape_eq_self {p : Part} : ∀ {l : List Char}, (∀ c ∈ l, p.isSafe c = true) → escape p l = l
  | [], _ => rfl
  | c :: l, h => by
    obtain ⟨hc, hl⟩ := List.forall_mem_cons.1 h
    have ih := escape_eq_self hl
    rw [escape] at ih ⊢
    rw [List.flatMap_cons, if_pos hc, ih, List.singleton_append]

theorem isSafe_path_of_part {c : Char} (h : isIdentifierPart c = true) : Part.path.isSafe c = true := by
  have hall : ∀ n < 128, isIdentifierPart (Char.ofNat n) = true → Part.path.isSafe (Char.ofNat n) = true := by decide
  exact forall_ascii (P := fun c => isIdentifierPart c = true → Part.path.isSafe c = true) hall (toNat_lt_of_part h) h

end Url

namespace Endpoint

def verb : Endpoint → String
  | .create => "create"
  | .list => "list"
  | .get => "get"
  | .update => "update"
  | .delete => "delete"

end Endpoint

namespace Schema

open Service

def functionName (s : Schema) (e : Endpoint) : String :=
  e.verb ++ "_" ++ (if e = .list then s.tableName else s.rowName)

theorem toList_functionName (s : Schema) (e : Endpoint) : (s.functionName e).toList =
    (e.verb ++ "_").toList ++ (if e = .list then s.tableName else s.rowName).toList := by
  rw [functionName, String.toList_append]

theorem head?_routeLine (s : Schema) (e : Endpoint) (arguments : String) :
    (s.routeLine e arguments).toList.head? ≠ some 'd' := by
  unfold routeLine
  simp only [String.append_assoc]
  exact head?_begun_ne (l := "app.".toList) _ (by decide)

/-- **An endpoint defines its function**, and no other. -/
theorem definedIn_endpointLines {s : Schema} (hrow : '(' ∉ s.rowName.toList) (htable : '(' ∉ s.tableName.toList)
    (e : Endpoint) : definedIn (s.endpointLines e) = [(s.functionName e).toList] := by
  have hname : ∀ {verb : List Char}, '(' ∉ verb → '(' ∉ verb ++ s.rowName.toList :=
    fun hverb => List.not_mem_append hverb hrow
  have hroute := s.head?_routeLine e
  rw [toList_functionName]
  cases e with
  | create =>
    rw [if_neg (by decide)]
    refine definedIn_eq_singleton (hroute _) ?_ ?_
    · rw [String.append_assoc, String.append_assoc]
      exact defined?_definition "create_".toList (hname (by decide)) (head?_begun _)
    · simp only [String.append_assoc, List.forall_mem_cons, List.not_mem_nil, false_implies, implies_true, and_true]
      exact ⟨head?_begun_ne _ (by decide), by decide, by decide, by decide, by decide⟩
  | list =>
    have hopens : '(' ∉ "list_".toList ++ s.tableName.toList := List.not_mem_append (by decide) htable
    rw [if_pos rfl]
    simp only [endpointLines, listLines]
    split <;> simp only [List.cons_append, List.nil_append]
    · refine definedIn_eq_singleton (hroute _) (defined?_definition "list_".toList hopens (by decide)) ?_
      simp only [String.append_assoc, List.forall_mem_cons, List.not_mem_nil, false_implies, implies_true, and_true]
      exact ⟨head?_begun_ne _ (by decide), by decide, by decide, by decide, head?_begun_ne _ (by decide), by decide⟩
    · refine definedIn_eq_singleton (hroute _) (defined?_definition "list_".toList hopens (by decide)) ?_
      simp only [String.append_assoc, List.forall_mem_cons, List.not_mem_nil, false_implies, implies_true, and_true]
      exact ⟨head?_begun_ne _ (by decide), by decide⟩
  | get =>
    rw [if_neg (by decide)]
    exact definedIn_eq_singleton (hroute _) (defined?_definition "get_".toList (hname (by decide)) (by decide))
      (by decide)
  | update =>
    rw [if_neg (by decide)]
    refine definedIn_eq_singleton (hroute _) ?_ (by decide)
    rw [String.append_assoc, String.append_assoc]
    exact defined?_definition "update_".toList (hname (by decide)) (head?_begun _)
  | delete =>
    rw [if_neg (by decide)]
    exact definedIn_eq_singleton (hroute _) (defined?_definition "delete_".toList (hname (by decide)) (by decide))
      (by decide)

/-- **A verb and an underscore make any identifier characters a name that a function may have.** -/
theorem legal_functionName {s : Schema} (hrow : AllParts s.rowName.toList) (htable : AllParts s.tableName.toList)
    (e : Endpoint) : Legal (s.functionName e).toList := by
  have hverb : ∀ e : Endpoint, isPlainIdentifier (e.verb ++ "_").toList = true := by
    rintro (_ | _ | _ | _ | _) <;> decide
  have hnoun : AllParts (if e = .list then s.tableName else s.rowName).toList := by
    split
    · exact htable
    · exact hrow
  -- no keyword has an underscore
  have hkeywords : ∀ k ∈ keywords, '_' ∉ k.toList := by decide
  refine ⟨?_, fun hmem => hkeywords _ hmem ?_⟩
  · rw [functionName, String.toList_append, mem_identifiers,
      isPlainIdentifier_append_iff (ne_nil_of_isPlainIdentifier (hverb e)) hnoun]
    exact hverb e
  · rw [functionName, String.ofList_toList]
    simp

theorem quoted_tableName_mem_modelHead {s : Schema} (h : ∀ c ∈ s.tableName.toList, IsPlain c) :
    "    __tablename__ = " ++ quoted s.tableName ∈ s.modelHead := by
  have hopen : "    __tablename__ = \"" = "    __tablename__ = " ++ "\"" := rfl
  have hline : "    __tablename__ = " ++ quoted s.tableName = "    __tablename__ = \"" ++ s.tableName ++ "\"" := by
    rw [quoted_of_isPlain h, hopen]
    simp only [String.append_assoc]
  rw [hline, modelHead]
  simp

theorem routeLine_eq_quoted {s : Schema} (h : ∀ c ∈ s.collectionPath.toList, IsPlain c) (e : Endpoint)
    (arguments : String) : s.routeLine e arguments = "@app." ++ e.method ++ "(" ++
      quoted (s.collectionPath ++ if e.ofItem then "/\x7bitem_id\x7d" else "") ++ ", " ++ arguments ++ ")" := by
  have hitem : ∀ c ∈ (if e.ofItem then "/\x7bitem_id\x7d" else "").toList, IsPlain c :=
    List.all_iff_forall_prop.1 (by cases e <;> decide)
  rw [quoted_of_isPlain (by rw [String.toList_append]; exact List.forall_mem_append.2 ⟨h, hitem⟩), routeLine]
  have hopen : "(\"" = "(" ++ "\"" := rfl
  have hclose : "\", " = "\"" ++ ", " := rfl
  rw [hopen, hclose]
  simp only [String.append_assoc]

/-- **The names of an entity stand in its artifacts as they are**, if its name is an identifier with a letter or a
digit.  The table and the path are words with single separators.  What the model has as the table and the service as the
path is what quoting makes of them, and nothing in the path is escaped in an address.  Each endpoint defines one
function, under a name that is an identifier and no keyword. -/
theorem clean_names {s : Schema} (h : s.entityName.In identifiers) (hword : HasWord s.entityName.shown.toList) :
    s.tableName.toList ∈ separated '_' ∧ s.pathSegment.toList ∈ separated '-' ∧
    "    __tablename__ = " ++ quoted s.tableName ∈ s.modelHead ∧
    Url.escape .path s.collectionPath.toList = s.collectionPath.toList ∧
    (∀ e arguments, s.routeLine e arguments = "@app." ++ e.method ++ "(" ++
      quoted (s.collectionPath ++ if e.ofItem then "/\x7bitem_id\x7d" else "") ++ ", " ++ arguments ++ ")") ∧
    ∀ e, definedIn (s.endpointLines e) = [(s.functionName e).toList] ∧ Legal (s.functionName e).toList := by
  have hplain := Wording.isPlainIdentifier_of_in h
  have hrow := allParts_rowName_of_in h
  have htable := allParts_tableName_of_in h
  have hopen : ∀ {t : List Char}, AllParts t → '(' ∉ t := fun ht hmem => absurd (ht _ hmem) (by decide)
  obtain ⟨htableWords, hpathWords⟩ := table_mem_separated hplain hword
  refine ⟨?_, ?_, quoted_tableName_mem_modelHead (fun c hc => isPlain_of_part (htable c hc)),
    Url.escape_eq_self (fun c hc => ?_), routeLine_eq_quoted (isPlain_of_mem_collectionPath h), fun e =>
    ⟨definedIn_endpointLines (hopen hrow) (hopen htable) e, legal_functionName hrow htable e⟩⟩
  · rwa [tableName, String.toList_ofList]
  · rwa [pathSegment, String.toList_ofList]
  · rw [collectionPath, String.toList_append, List.mem_append] at hc
    rcases hc with hslash | hc
    · obtain rfl := List.mem_singleton.1 hslash
      decide
    · rcases part_or_hyphen_of_mem_pathSegment h c hc with hpart | rfl
      · exact Url.isSafe_path_of_part hpart
      · decide

/-- **Underscores at both ends and in a row, a run of capitals and a digit in front.** -/
theorem clean_names_httpOrder : let s : Schema := { entityName := "_2ndHTTPOrder__Item_" }
    s.entityName.In identifiers ∧ HasWord s.entityName.shown.toList ∧
      s.tableName = "2nd_http_order_items" ∧ s.collectionPath = "/2nd-http-order-items" ∧
      "2nd_http_order_items".toList ∈ separated '_' ∧ "2nd-http-order-items".toList ∈ separated '-' ∧
      definedIn (s.endpointLines .create) = ["create__2nd_http_order___item_".toList] ∧
      Legal "list_2nd_http_order_items".toList := by
  have hname : (Wording.ofText "_2ndHTTPOrder__Item_").In identifiers :=
    Wording.ofText_in_identifiers _ (by decide)
  have hshown : (Wording.ofText "_2ndHTTPOrder__Item_").shown = "_2ndHTTPOrder__Item_" := Wording.shown_ofText _
  have hword : HasWord (Wording.ofText "_2ndHTTPOrder__Item_").shown.toList := by
    rw [hshown]
    exact ⟨'H', by decide, .inl rfl⟩
  obtain ⟨htable, hpath, -, -, -, hfunctions⟩ := clean_names (s := { entityName := "_2ndHTTPOrder__Item_" }) hname hword
  exact ⟨hname, hword, by decide, by decide, htable, hpath, (hfunctions .create).1, (hfunctions .list).2⟩

end Schema
end Scaffold
