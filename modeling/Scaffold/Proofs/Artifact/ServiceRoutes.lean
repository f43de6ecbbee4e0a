import Scaffold.Proofs.Artifact.ComponentLines
import Scaffold.Proofs.Artifact.ServiceText
/-!
# Proofs.Artifact.ServiceRoutes — the routes of a service

A route is read from a line that begins with a decorator of the application.  No other line of a service begins so,
whatever the schema, so the routes are those of the endpoints, in their order (`Named.routesOf_service`).
-/
namespace Scaffold

open Naming Source Text

namespace Service

/-- **The route in a line**: the method and the path of the decorator with which it begins. -/
def route? (l : List Char) : Option (List Char × List Char) :=
  if l.head? = some '@' then
    match after? [.mark '@', .word "app".toList, .mark '.'] (tokens .escaped l) with
    | some (.word method :: .mark '(' :: .quoted '"' path :: _) => some (method, path)
    | _ => none
  else none

def routesOf (service : String) : List (List Char × List Char) := (textLines service).filterMap route?

/-- **A line of its own that begins no decorator.** -/
structure Undecorated (l : String) : Prop where
  oneLine : OneLine l
  head : l.toList.head? ≠ some '@'

theorem Undecorated.closed {l : List Char} (hfeed : '\n' ∉ l) (hhead : l.head? ≠ some '@') :
    Undecorated (String.ofList l) :=
  ⟨oneLine_ofList hfeed, by rwa [String.toList_ofList]⟩

theorem Undecorated.begun {c : Char} {l : List Char} (hfeed : '\n' ∉ c :: l) (hhead : c ≠ '@') {rest : String}
    (hrest : OneLine rest) : Undecorated (String.ofList (c :: l) ++ rest) := by
  refine ⟨oneLine_append.2 ⟨oneLine_ofList hfeed, hrest⟩, ?_⟩
  rw [String.toList_append, String.toList_ofList]
  simpa using hhead

theorem filterMap_undecorated {lines : List String} (h : ∀ l ∈ lines, Undecorated l) :
    (lines.map String.toList).filterMap route? = [] :=
  List.filterMap_eq_nil_iff.2 (List.forall_mem_map.2 (fun l hl => if_neg (h l hl).head))

end Service

namespace Schema

open Service

def route (s : Schema) (e : Endpoint) : List Char × List Char :=
  (e.method.toList, s.collectionPath.toList ++ if e.ofItem then "/\x7bitem_id\x7d".toList else [])

namespace Named

variable {s : Schema}

theorem route?_routeLine (h : s.Named) (e : Endpoint) (arguments : String) :
    route? (s.routeLine e arguments).toList = some (s.route e) := by
  have happ : Closes .escaped "@app.".toList [.mark '@', .word "app".toList, .mark '.'] :=
    Closes.of_run (by decide +kernel)
  have hmethod : Reads .escaped e.method.toList [.word e.method.toList] := reads_plainIdentifier (by cases e <;> decide)
  have hopen : Closes .escaped ['('] [.mark '('] := Closes.of_run rfl
  have hitem : "/\x7bitem_id\x7d".toList.all (fun c => decide (IsPlain c)) = true := by decide +kernel
  have hpath : Inside (s.route e).2 := by
    refine (inside_of_isPlain (isPlain_of_mem_collectionPath h.entityName_in)).append ?_
    split
    · exact inside_of_isPlain (fun c hc => of_decide_eq_true (List.all_eq_true.1 hitem c hc))
    · exact Inside.nil
  have hparts : ∀ a m p i b : String, (a ++ m ++ "(\"" ++ p ++ i ++ "\", " ++ b ++ ")").toList =
      a.toList ++ m.toList ++ ['('] ++ ('"' :: (p.toList ++ i.toList) ++ ['"']) ++
      (',' :: ' ' :: (b ++ ")").toList) := by
    intro a m p i b
    simp
  have hline : (s.routeLine e arguments).toList =
      "@app.".toList ++ e.method.toList ++ ['('] ++ ('"' :: (s.route e).2 ++ ['"']) ++
        (',' :: ' ' :: (arguments ++ ")").toList) := by
    refine (hparts _ _ _ _ _).trans ?_
    unfold route
    split <;> rfl
  have hreads :=
    (((happ.append_reads hmethod).append_closes hopen (fun rest => separated_cons_append rfl [] rest)).append
    hpath.closes) (',' :: ' ' :: (arguments ++ ")").toList)
  have hhead : (s.routeLine e arguments).toList.head? = some '@' := by rw [hline]; rfl
  rw [route?, if_pos hhead, hline, hreads]
  rfl

theorem oneLine_routeLine (h : s.Named) (e : Endpoint) {arguments : String} (ha : OneLine arguments) :
    OneLine (s.routeLine e arguments) := by
  have hpath : OneLine s.collectionPath :=
    oneLine_of_shown (fun c hc => (isPlain_of_mem_collectionPath h.entityName_in c hc).1)
  have hmethod : OneLine e.method := by cases e <;> decide
  have hitem : OneLine (if e.ofItem then "/\x7bitem_id\x7d" else "") := by cases e <;> decide
  unfold routeLine
  simp only [oneLine_append, hpath, hmethod, hitem, ha, and_true]
  and_intros <;> exact oneLine_ofList (by decide)

/-! ## The other lines -/

theorem oneLine_entity (h : s.Named) :
    OneLine s.rowName ∧ OneLine s.className ∧ OneLine s.tableName ∧ OneLine s.modelRef := by
  have hclass : OneLine s.className := oneLine_of_part h.allParts_className
  exact ⟨oneLine_of_part h.allParts_rowName, hclass, oneLine_of_part h.allParts_tableName,
    oneLine_append.2 ⟨by decide, hclass⟩⟩

theorem undecorated_listLines (h : s.Named) : ∀ l ∈ s.listLines, Undecorated l := by
  obtain ⟨-, -, htable, hmodel⟩ := h.oneLine_entity
  have hnumbers : OneLine (toString defaultPageSize) ∧ OneLine (toString maxPageSize) ∧ OneLine identityName := by
    decide +kernel
  unfold listLines
  split <;> simp only [String.append_assoc, List.forall_mem_cons, List.not_mem_nil, false_implies, implies_true,
    and_true]
  · refine ⟨.begun (by decide) (by decide) ?_, .begun (by decide) (by decide) ?_, .closed (by decide) (by decide),
      .closed (by decide) (by decide), .closed (by decide) (by decide), .begun (by decide) (by decide) ?_⟩
    all_goals
      simp only [oneLine_append, htable, hmodel, hnumbers, true_and]
      and_intros <;> exact oneLine_ofList (by decide)
  · refine ⟨.begun (by decide) (by decide) ?_, .begun (by decide) (by decide) ?_⟩
    all_goals
      simp only [oneLine_append, htable, hmodel, hnumbers, true_and]
      and_intros <;> exact oneLine_ofList (by decide)

theorem undecorated_endpointLines (h : s.Named) (e : Endpoint) : ∃ arguments body,
    s.endpointLines e = s.routeLine e arguments :: body ∧ OneLine arguments ∧ ∀ l ∈ body, Undecorated l := by
  obtain ⟨hrow, hclass, -, hmodel⟩ := h.oneLine_entity
  have harguments : ∀ b : String, OneLine b → OneLine ("response_model=" ++ s.className ++ b) := fun b hb =>
    oneLine_append.2 ⟨oneLine_append.2 ⟨oneLine_ofList (by decide), hclass⟩, hb⟩
  cases e with
  | create =>
    refine ⟨_, _, rfl, harguments _ (by decide), ?_⟩
    simp only [String.append_assoc, List.forall_mem_cons, List.not_mem_nil, false_implies, implies_true, and_true]
    refine ⟨.begun (by decide) (by decide) ?_, .begun (by decide) (by decide) ?_, .closed (by decide) (by decide),
      .closed (by decide) (by decide), .closed (by decide) (by decide), .closed (by decide) (by decide)⟩
    all_goals
      simp only [oneLine_append, hrow, hclass, hmodel, true_and]
      and_intros <;> exact oneLine_ofList (by decide)
  | list =>
    refine ⟨_, s.listLines ++ ["    return db.scalars(stmt).all()"], rfl, oneLine_append.2 ⟨oneLine_append.2
      ⟨oneLine_ofList (by decide), hclass⟩, oneLine_ofList (by decide)⟩, List.forall_mem_append.2
      ⟨h.undecorated_listLines, List.forall_mem_singleton.2 (.closed (by decide) (by decide))⟩⟩
  | get =>
    refine ⟨_, _, rfl, harguments _ (by decide), ?_⟩
    simp only [String.append_assoc, List.forall_mem_cons, List.not_mem_nil, false_implies, implies_true, and_true]
    refine ⟨.begun (by decide) (by decide) (oneLine_append.2 ⟨hrow, oneLine_ofList (by decide)⟩),
      .closed (by decide) (by decide)⟩
  | update =>
    refine ⟨_, _, rfl, harguments _ (by decide), ?_⟩
    simp only [String.append_assoc, List.forall_mem_cons, List.not_mem_nil, false_implies, implies_true, and_true]
    refine ⟨.begun (by decide) (by decide) ?_, .closed (by decide) (by decide), .closed (by decide) (by decide),
      .closed (by decide) (by decide), .closed (by decide) (by decide), .closed (by decide) (by decide),
      .closed (by decide) (by decide)⟩
    simp only [oneLine_append, hrow, hclass, true_and]
    and_intros <;> exact oneLine_ofList (by decide)
  | delete =>
    refine ⟨_, _, rfl, oneLine_ofList (by decide), ?_⟩
    simp only [String.append_assoc, List.forall_mem_cons, List.not_mem_nil, false_implies, implies_true, and_true]
    refine ⟨.begun (by decide) (by decide) (oneLine_append.2 ⟨hrow, oneLine_ofList (by decide)⟩),
      .closed (by decide) (by decide), .closed (by decide) (by decide), .closed (by decide) (by decide),
      .closed (by decide) (by decide)⟩

theorem undecorated_serviceHead (h : s.Named) : ∀ l ∈ s.serviceHead, Undecorated l := by
  obtain ⟨-, hclass, -, -⟩ := h.oneLine_entity
  unfold serviceHead
  refine List.forall_mem_append.2 ⟨List.forall_mem_append.2 ⟨?_, ?_⟩, ?_⟩
  · exact List.forall_mem_singleton.2 (.closed (by decide) (by decide))
  · split
    · exact List.forall_mem_singleton.2 (.closed (by decide) (by decide))
    · exact List.forall_mem_nil _
  · have happ : Undecorated ("app = FastAPI(title=\"" ++ s.className ++ " API\")") := by
      rw [String.append_assoc]
      exact .begun (by decide) (by decide) (oneLine_append.2 ⟨hclass, oneLine_ofList (by decide)⟩)
    simp only [List.forall_mem_cons, List.not_mem_nil, false_implies, implies_true, happ, true_and, and_true]
    and_intros <;> exact .closed (by decide) (by decide)

theorem undecorated_serviceClasses (h : s.Named) : ∀ l ∈ s.serviceClasses.flatMap Block.lines, Undecorated l := by
  intro l hl
  obtain ⟨b, hb, hl⟩ := List.mem_flatMap.1 hl
  refine ⟨h.oneLine_serviceClasses b hb l hl, ?_⟩
  rcases List.mem_cons.1 hl with rfl | hbody
  · have hheader : ∀ b ∈ s.serviceClasses, b.header.toList.head? = some 'c' :=
      forall_mem_serviceClasses (s.serviceHeader_head? _) (s.serviceHeader_head? _) (s.serviceHeader_head? _)
    rw [hheader b hb]
    decide
  · intro hhead
    have hinner := s.apart_serviceClasses.bodies b hb l hbody
    rw [isInner, hhead] at hinner
    cases hlist : l.toList <;> simp [hlist] at hinner hhead

theorem undecorated_search (h : s.Named) : ∀ l ∈ [s.searchLine] ++ s.searchBody, Undecorated l := by
  obtain ⟨-, hclass, -, hmodel⟩ := h.oneLine_entity
  unfold searchLine searchBody
  simp only [String.append_assoc, List.cons_append, List.nil_append, List.forall_mem_cons, List.not_mem_nil,
    false_implies, implies_true, and_true]
  exact ⟨.begun (by decide) (by decide) (oneLine_append.2 ⟨hmodel, oneLine_ofList (by decide)⟩),
    .begun (by decide) (by decide) (oneLine_append.2 ⟨hmodel, oneLine_ofList (by decide)⟩),
    .closed (by decide) (by decide),
    .begun (by decide) (by decide) (oneLine_append.2 ⟨hclass, oneLine_ofList (by decide)⟩),
    .closed (by decide) (by decide)⟩

theorem undecorated_serviceTail : ∀ l ∈ serviceTail, Undecorated l := by
  unfold serviceTail
  simp only [List.forall_mem_cons, List.not_mem_nil, false_implies, implies_true, and_true]
  exact ⟨.closed (by decide) (by decide), .closed (by decide) (by decide), .closed (by decide) (by decide),
    .closed (by decide) (by decide)⟩

theorem filterMap_endpointBlock (h : s.Named) (e : Endpoint) :
    ((s.endpointBlock e).map String.toList).filterMap route? = [s.route e] := by
  obtain ⟨arguments, body, hlines, -, hbody⟩ := h.undecorated_endpointLines e
  have hempty : route? "".toList = none := rfl
  rw [endpointBlock, hlines]
  simp only [List.cons_append, List.nil_append, List.map_cons, List.filterMap_cons, hempty, h.route?_routeLine,
    filterMap_undecorated hbody]

theorem filterMap_endpointBlocks (h : s.Named) : ∀ es : List Endpoint,
    ((es.flatMap s.endpointBlock).map String.toList).filterMap route? = es.map s.route
  | [] => rfl
  | e :: es => by
    rw [List.flatMap_cons, List.map_append, List.filterMap_append, h.filterMap_endpointBlock,
      h.filterMap_endpointBlocks es, List.map_cons, List.singleton_append]

theorem serviceLines_split (h : s.Named) : ∃ front, (∀ l ∈ front, Undecorated l) ∧
    s.serviceLines = front ++ s.endpoints.flatMap s.endpointBlock ++ serviceTail := by
  refine ⟨s.serviceHead ++ s.serviceClasses.flatMap Block.lines ++ ([s.searchLine] ++ s.searchBody),
    List.forall_mem_append.2 ⟨List.forall_mem_append.2 ⟨h.undecorated_serviceHead, h.undecorated_serviceClasses⟩,
      h.undecorated_search⟩, ?_⟩
  rw [serviceLines_eq]
  simp only [List.append_assoc]

theorem oneLine_endpointBlock (h : s.Named) (e : Endpoint) : ∀ l ∈ s.endpointBlock e, OneLine l := by
  obtain ⟨arguments, body, hlines, harguments, hbody⟩ := h.undecorated_endpointLines e
  rw [endpointBlock, hlines]
  exact List.forall_mem_append.2 ⟨by decide, List.forall_mem_cons.2
    ⟨h.oneLine_routeLine e harguments, fun l hl => (hbody l hl).oneLine⟩⟩

/-- **The routes of the service** are those of its endpoints. -/
theorem routesOf_service (h : s.Named) : routesOf s.service = s.endpoints.map s.route := by
  obtain ⟨front, hfront, hlines⟩ := h.serviceLines_split
  have honeLine : ∀ l ∈ s.serviceLines, OneLine l := by
    rw [hlines]
    refine List.forall_mem_append.2 ⟨List.forall_mem_append.2 ⟨fun l hl => (hfront l hl).oneLine, fun l hl => ?_⟩,
      fun l hl => (undecorated_serviceTail l hl).oneLine⟩
    obtain ⟨e, -, hl⟩ := List.mem_flatMap.1 hl
    exact h.oneLine_endpointBlock e l hl
  rw [routesOf, service, textLines_complete (by rw [hlines]; simp [serviceTail]) honeLine, hlines, List.map_append,
    List.map_append, List.filterMap_append, List.filterMap_append, List.filterMap_append, filterMap_undecorated hfront,
    filterMap_undecorated undecorated_serviceTail, h.filterMap_endpointBlocks, List.nil_append, List.append_nil]
  exact List.append_nil _

end Named

end Schema

end Scaffold
