import Scaffold.Proofs.Artifact.ComponentLines
import Scaffold.Proofs.Artifact.ServiceParameters
/-!
# Proofs.Artifact.Pagination — who knows that a schema is paginated

The service takes the number of a page's rows and of those before it exactly if the schema is paginated.  The component
asks for its rows in one way in any case: it requests the path of the collection and sends nothing with it.  So the two
agree exactly if the schema is not paginated (`pages_agree_iff`), and of a paginated list the component has the first
page only.
-/
namespace Scaffold

open Naming Source Text

namespace Component

def loadHeader : String := "  async function load() \x7b"

/-- **The text that a constant of the component is given.** -/
def constant? (name component : String) : Option (List Char) :=
  match after? [.word "const".toList, .word name.toList, .mark '='] (tokens .escaped component.toList) with
  | some (.quoted '"' l :: _) => some l
  | _ => none

def loadRequests (component : String) : List (List (List Token)) :=
  (between loadHeader "  \x7d" (textLines component)).filterMap (fun l =>
    (after? (tokensOf "await fetch") (tokens .escaped l)).map callArguments)

def queryNames (address : List Char) : List (List Char) :=
  (words '&' ((address.dropWhile (fun c => decide (c ≠ '?'))).drop 1)).map
    (fun w => w.takeWhile (fun c => decide (c ≠ '=')))

/-- The names under which something may be sent for a token of a request: those in the query of a text or of the
collection's address, and any other word. -/
def namesSent (address : Option (List Char)) : Token → List (List Char)
  | .word w => if w = "API_URL".toList then (address.map queryNames).getD [] else [w]
  | .quoted _ l => queryNames l
  | .mark _ => []

def sentBy (component : String) : List (List Char) :=
  (loadRequests component).flatten.flatten.flatMap (namesSent (constant? "API_URL" component))

/-- **The component asks for pages**: it sends the number of a page's rows and of those before it. -/
def AsksForPages (component : String) : Prop := "limit".toList ∈ sentBy component ∧ "offset".toList ∈ sentBy component

instance (component : String) : Decidable (AsksForPages component) := inferInstanceAs (Decidable (_ ∧ _))

example : AsksForPages ("const API_URL = \"/books\";\n  async function load() \x7b\n" ++
    "    const response = await fetch(`$\x7bAPI_URL\x7d?limit=$\x7bsize\x7d&offset=$\x7bstart\x7d`);\n  \x7d\n") := by
  decide +kernel

def loadBody : List String :=
  ["    try \x7b",
   "      const response = await fetch(API_URL);",
   "      if (!response.ok) throw new Error(`Request failed: $\x7bresponse.status\x7d`);",
   "      setItems(await response.json());",
   "    \x7d catch (err) \x7b",
   "      setError(err.message);",
   "    \x7d"]

def loadTail : List String := ["", "  useEffect(() => \x7b", "    load();", "  \x7d, []);", ""]

-- Here and below the lines are decided as lists of characters, which the kernel need not decode first.
theorem oneLine_loadLines : ∀ l ∈ loadLines, OneLine l := by
  have hmap : ∀ l ∈ loadLines.map String.toList, '\n' ∉ l := by
    unfold loadLines
    repeat rw [map_toList_cons]
    decide +kernel
  exact fun l hl => hmap _ (List.mem_map_of_mem hl)

theorem loadBody_spec : "  \x7d".toList ∉ loadBody.map String.toList ∧
    ((loadBody.map String.toList).filterMap (fun l =>
      (after? (tokensOf "await fetch") (tokens .escaped l)).map callArguments)) = [[[.word "API_URL".toList]]] := by
  unfold loadBody tokensOf
  repeat rw [map_toList_cons]
  repeat rw [String.toList_ofList]
  decide +kernel

def importText : String := "import \x7b useEffect, useState \x7d from \"react\";\n\n"

/-! ## Lines that begin no loading -/

/-- Nowhere in the line, as far as it goes, does the function begin. -/
def BeginsNoLoad (l : String) : Prop := loadHeader.toList ∉ textLines l

instance (l : String) : Decidable (BeginsNoLoad l) := inferInstanceAs (Decidable (_ ∉ _))

theorem beginsNoLoad_of_oneLine {l : String} (hline : OneLine l) (h : l.toList[2]? ≠ some 'a') : BeginsNoLoad l := by
  rw [BeginsNoLoad, textLines_of_oneLine hline, List.mem_singleton]
  intro heq
  exact h (heq ▸ by decide)

/-- A line with fewer spaces than the header does not hold it, wherever it ends. -/
theorem beginsNoLoad_of_count {a b c : String} {m n : Nat} (ha : a.toList.count ' ' = m) (hb : ' ' ∉ b.toList)
    (hc : c.toList.count ' ' = n) (h : m + n < 5) : BeginsNoLoad (a ++ b ++ c) := fun hmem => by
  have hspaces : loadHeader.toList.count ' ' = 5 := by decide
  have hle := (sublist_of_mem_split hmem).count_le ' '
  rw [hspaces, String.toList_append, String.toList_append, List.count_append, List.count_append, ha, hc,
    List.count_eq_zero_of_not_mem hb] at hle
  omega

theorem forall_beginsNoLoad {lines : List String}
    (h : ∀ l ∈ lines.map String.toList, loadHeader.toList ∉ split '\n' l) :
    ∀ l ∈ lines, BeginsNoLoad l := fun _ hl => h _ (List.mem_map_of_mem hl)

theorem beginsNoLoad_stateLines (ops : Operations) : ∀ l ∈ stateLines ops, BeginsNoLoad l := by
  refine forall_beginsNoLoad ?_
  unfold stateLines loadHeader only
  cases ops.hasForm <;> cases ops.update
  all_goals
    simp only [Bool.false_eq_true, if_true, if_false, List.cons_append, List.nil_append, List.append_nil]
    repeat rw [map_toList_cons]
    rw [String.toList_ofList]
    decide +kernel

theorem beginsNoLoad_fixedLines : ∀ l ∈ payloadBody ++ formatLines, BeginsNoLoad l := by
  refine forall_beginsNoLoad ?_
  unfold payloadBody formatLines loadHeader
  simp only [List.cons_append, List.nil_append]
  repeat rw [map_toList_cons]
  rw [String.toList_ofList]
  decide +kernel

end Component

namespace Field

open Component

theorem beginsNoLoad_listingLine (f : Field) : BeginsNoLoad f.listingLine := by
  have hthird : f.listingLine.toList[2]? = some '\x7b' := by
    unfold listingLine
    simp only [String.append_assoc]
    rw [String.toList_append, String.toList_ofList]
    rfl
  exact beginsNoLoad_of_oneLine f.oneLine_listingLine (by rw [hthird]; decide)

theorem beginsNoLoad_formEntry {f : Field} {l : String} (h : f.formEntry = .ok l) : BeginsNoLoad l := by
  have hthird : l.toList[2]? = some '"' := by
    obtain ⟨v, -, rfl⟩ := Sequence.map_eq_ok_iff.1 h
    simp only [String.append_assoc, quoted, String.toList_append, String.toList_ofList]
    rfl
  exact beginsNoLoad_of_oneLine (oneLine_formEntry h) (by rw [hthird]; decide)

end Field

namespace Schema

open Component Service

def linesBeforeLoad (s : Schema) (entries : List String) : List String :=
  s.componentPreamble ++
    only s.operations.hasForm
      (["const EMPTY_FORM = \x7b"] ++ entries ++ ["\x7d;", ""] ++ payloadLines s.numericNames) ++
    formatLines ++ [s.exportLine] ++ stateLines s.operations

theorem exists_componentLines_eq {s : Schema} (hread : s.operations.read = true) (entries : List String) :
    ∃ more, s.componentLines entries = s.linesBeforeLoad entries ++ loadLines ++ more := by
  unfold componentLines linesBeforeLoad componentPreamble exportLine
  simp only [hread, only, if_true, List.append_assoc, List.cons_append, List.nil_append]
  exact ⟨_, rfl⟩

theorem toList_addressLine (s : Schema) :
    s.addressLine.toList = "const API_URL = ".toList ++ ('"' :: s.collectionPath.toList ++ ['"']) ++ [';'] := by
  have hfront : "const API_URL = \"/".toList = "const API_URL = ".toList ++ ['"', '/'] := rfl
  have hback : "\";".toList = ['"', ';'] := rfl
  have hpath : s.collectionPath.toList = ['/'] ++ s.pathSegment.toList := String.toList_append
  have hline : s.addressLine.toList = "const API_URL = \"/".toList ++ s.pathSegment.toList ++ "\";".toList :=
    String.toList_append.trans (congrArg (· ++ "\";".toList) String.toList_append)
  rw [hline, hfront, hback, hpath]
  simp only [List.append_assoc, List.cons_append, List.nil_append]

theorem exists_componentLines_text (s : Schema) (entries : List String) :
    ∃ rest, ("\n".intercalate (s.componentLines entries) ++ "\n").toList =
      importText.toList ++ "const API_URL = ".toList ++ ('"' :: s.collectionPath.toList ++ ['"']) ++ rest := by
  obtain ⟨more, hmore⟩ := s.exists_componentLines_cons entries
  have htext : ("\n".intercalate (s.componentLines entries) ++ "\n").toList = linesText (s.componentLines entries) :=
    toList_lines (s.componentLines_ne_nil entries)
  have himport : importText.toList = "import \x7b useEffect, useState \x7d from \"react\";".toList ++ ['\n', '\n'] := by
    rw [importText, String.toList_ofList, String.toList_ofList]
    rfl
  have hnothing : "".toList = [] := rfl
  refine ⟨';' :: '\n' :: linesText more, ?_⟩
  rw [htext, hmore, linesText_cons, linesText_cons "", linesText_cons s.addressLine, toList_addressLine, himport]
  simp only [hnothing, List.append_assoc, List.cons_append, List.nil_append]

theorem beginsNoLoad_numberLine (s : Schema) : BeginsNoLoad s.numberLine := by
  have hnames : ∀ x ∈ s.numericNames, OneLine x := List.forall_mem_map.2 (fun f _ => oneLine_quoted f.name)
  refine beginsNoLoad_of_oneLine (oneLine_append.2 ⟨oneLine_append.2 ⟨oneLine_ofList (by decide),
    oneLine_intercalate (by decide) hnames⟩, oneLine_ofList (by decide)⟩) ?_
  have hthird : s.numberLine.toList[2]? = some 'n' := by
    unfold numberLine
    rw [String.append_assoc, String.toList_append, String.toList_ofList]
    rfl
  rw [hthird]
  decide

namespace Accepted

variable {s : Schema}

theorem beginsNoLoad_addressLine (h : s.Accepted) : BeginsNoLoad s.addressLine :=
  beginsNoLoad_of_count (m := 3) (n := 0) (by decide) (fun hmem => absurd (h.mem_pathSegment _ hmem) (by decide))
    (by decide)
    (by decide)

theorem beginsNoLoad_exportLine (h : s.Accepted) : BeginsNoLoad s.exportLine :=
  beginsNoLoad_of_count (m := 3) (n := 1) (by decide) (fun hmem => absurd (h.allNameChars_className _ hmem) (by decide))
    (by decide) (by decide)

theorem beginsNoLoad_preamble (h : s.Accepted) : ∀ l ∈ s.componentPreamble, BeginsNoLoad l := by
  have haddress := h.beginsNoLoad_addressLine
  unfold addressLine at haddress
  unfold componentPreamble
  refine List.forall_mem_append.2
    ⟨List.forall_mem_append.2 ⟨?_, List.forall_mem_map.2 (fun f _ => f.beginsNoLoad_listingLine)⟩,
    by decide⟩
  simp only [List.forall_mem_cons, List.not_mem_nil, false_implies, implies_true, haddress, and_true, true_and]
  decide +kernel

theorem beginsNoLoad_before (h : s.Accepted) {entries : List String}
    (hentries : ∀ l ∈ entries, ∃ f : Field, f.formEntry = .ok l) :
    ∀ l ∈ s.linesBeforeLoad entries, BeginsNoLoad l := by
  have hentry : ∀ l ∈ entries, BeginsNoLoad l := fun l hl => by
    obtain ⟨f, hf⟩ := hentries l hl
    exact Field.beginsNoLoad_formEntry hf
  have hpayload : ∀ l ∈ payloadLines s.numericNames, BeginsNoLoad l := by
    have hlines : payloadLines s.numericNames = s.numberLine :: payloadBody := rfl
    rw [hlines]
    exact List.forall_mem_cons.2 ⟨beginsNoLoad_numberLine s, (List.forall_mem_append.1 beginsNoLoad_fixedLines).1⟩
  unfold linesBeforeLoad only
  refine List.forall_mem_append.2 ⟨List.forall_mem_append.2 ⟨List.forall_mem_append.2 ⟨List.forall_mem_append.2
    ⟨h.beginsNoLoad_preamble, ?_⟩, (List.forall_mem_append.1 beginsNoLoad_fixedLines).2⟩,
    List.forall_mem_singleton.2 h.beginsNoLoad_exportLine⟩, beginsNoLoad_stateLines s.operations⟩
  split
  · exact List.forall_mem_append.2 ⟨List.forall_mem_append.2 ⟨List.forall_mem_append.2 ⟨by decide, hentry⟩, by decide⟩,
      hpayload⟩
  · exact List.forall_mem_nil _

/-! ## What the component asks for -/

/-- **The rows are requested from the collection as such**, whatever the schema. -/
theorem loadRequests_component (h : s.Accepted) (hread : s.operations.read = true) {component : String}
    (hcomponent : s.component = .ok component) : loadRequests component = [[[.word "API_URL".toList]]] := by
  obtain ⟨entries, hentries, rfl⟩ := Sequence.map_eq_ok_iff.1 hcomponent
  obtain ⟨more, hmore⟩ := exists_componentLines_eq hread entries
  have hbefore : loadHeader.toList ∉ (s.linesBeforeLoad entries).flatMap textLines := fun hmem => by
    obtain ⟨l, hl, hmem⟩ := List.mem_flatMap.1 hmem
    exact h.beginsNoLoad_before (exists_of_mem_formEntries hentries) l hl hmem
  have hload : loadLines = loadHeader :: (loadBody ++ "  \x7d" :: loadTail) := rfl
  have hlines : (s.linesBeforeLoad entries ++ loadLines ++ more).flatMap textLines ++ [[]] =
      (s.linesBeforeLoad entries).flatMap textLines ++ loadHeader.toList ::
        (loadBody.map String.toList ++ "  \x7d".toList ::
        (loadTail.map String.toList ++ more.flatMap textLines ++ [[]])) := by
    rw [List.flatMap_append, List.flatMap_append, flatMap_textLines oneLine_loadLines, hload, List.map_cons,
      List.map_append, List.map_cons]
    simp only [List.append_assoc, List.cons_append]
  rw [loadRequests, textLines_eq_flatMap (s.componentLines_ne_nil _), hmore, hlines, between_eq hbefore loadBody_spec.1]
  exact loadBody_spec.2

theorem constant?_component (h : s.Accepted) {component : String} (hcomponent : s.component = .ok component) :
    constant? "API_URL" component = some s.collectionPath.toList := by
  obtain ⟨entries, -, rfl⟩ := Sequence.map_eq_ok_iff.1 hcomponent
  have himport : Closes .escaped importText.toList (tokens .escaped importText.toList) :=
    Closes.of_run (by decide +kernel)
  have hconst : Closes .escaped "const API_URL = ".toList [.word "const".toList, .word "API_URL".toList, .mark '='] :=
    Closes.of_run (by decide +kernel)
  have hfirst : Token.word "const".toList ∉ tokens .escaped importText.toList := by decide +kernel
  obtain ⟨rest, hrest⟩ := exists_componentLines_text s entries
  have hreads := ((himport.append hconst).append h.inside_collectionPath.closes) rest
  rw [constant?, hrest, hreads]
  simp only [List.append_assoc]
  rw [after?_append _ hfirst]
  rfl

theorem sentBy_component (h : s.Accepted) (hread : s.operations.read = true) {component : String}
    (hcomponent : s.component = .ok component) : sentBy component = [] := by
  have hquery : s.collectionPath.toList.dropWhile (fun c => decide (c ≠ '?')) = [] :=
    List.dropWhile_eq_nil_iff.2 (fun c hc => decide_eq_true (fun heq : c = '?' =>
      absurd (h.mem_collectionPath _ (heq ▸ hc)) (by decide)))
  have hnames : queryNames s.collectionPath.toList = [] := by
    rw [queryNames, hquery]
    rfl
  rw [sentBy, h.loadRequests_component hread hcomponent, h.constant?_component hcomponent]
  simp [namesSent, hnames]

end Accepted

/-- **The service takes pages** for the list: the number of a page's rows and that of the rows before it. -/
def TakesPages (s : Schema) : Prop := ∃ parameters,
  parameters? s.service "get".toList s.collectionPath.toList = some parameters ∧
    "limit".toList ∈ parameters ∧ "offset".toList ∈ parameters

theorem Accepted.takesPages_iff {s : Schema} (h : s.Accepted) (hread : s.operations.read = true) :
    s.TakesPages ↔ s.paginate = true := by
  have hparameters := h.parameters?_list hread
  unfold TakesPages
  rw [hparameters]
  cases s.paginate with
  | false => simp
  | true => exact iff_of_true ⟨_, rfl, by decide, by decide⟩ rfl

theorem Accepted.not_asksForPages {s : Schema} (h : s.Accepted) (hread : s.operations.read = true) {component : String}
    (hcomponent : s.component = .ok component) : ¬ AsksForPages component := fun hasks => by
  rw [AsksForPages, h.sentBy_component hread hcomponent] at hasks
  exact List.not_mem_nil hasks.1

/-- **Service and component agree about pages exactly if there are none.**  For every schema without errors whose rows
can be read, the service takes the parameters of pages for its list exactly if the schema is paginated.  The component
requests the collection and sends nothing with it, so it never asks for a page. -/
theorem pages_agree_iff {threshold : Int} {s : Schema} (h : (s.validate threshold).errors = [])
    (hread : s.operations.read = true) : ∃ component, s.component = .ok component ∧
      constant? "API_URL" component = some s.collectionPath.toList ∧
      loadRequests component = [[[.word "API_URL".toList]]] ∧ sentBy component = [] ∧
      parameters? s.service "get".toList s.collectionPath.toList =
        some (if s.paginate then ["limit".toList, "offset".toList, "db".toList] else ["db".toList]) ∧
      (((s.TakesPages ↔ s.paginate = true) ∧ (AsksForPages component ↔ s.paginate = true)) ↔ s.paginate = false) := by
  have haccepted := (errors_eq_nil_iff threshold s).1 h
  obtain ⟨component, hcomponent⟩ := haccepted.exists_component_eq_ok
  refine ⟨component, hcomponent, haccepted.constant?_component hcomponent,
    haccepted.loadRequests_component hread hcomponent, haccepted.sentBy_component hread hcomponent,
    haccepted.parameters?_list hread, ?_⟩
  simp [haccepted.takesPages_iff hread, haccepted.not_asksForPages hread hcomponent]

def listedBooks (paginate : Bool) : Schema :=
  { entityName := "Book", fields := [{ id := "1", name := "title" }], paginate := paginate }

/-- **Books that are listed at once**: the service takes nothing for the list, and the component sends nothing. -/
theorem listedBooks_agree : ((listedBooks false).validate defaultThreshold).errors = [] ∧
    (listedBooks false).operations.read = true ∧ ∃ component, (listedBooks false).component = .ok component ∧
      constant? "API_URL" component = some "/books".toList ∧
      parameters? (listedBooks false).service "get".toList "/books".toList = some ["db".toList] ∧
      (((listedBooks false).TakesPages ↔ false = true) ∧ (AsksForPages component ↔ false = true)) := by
  have haccepted : ((listedBooks false).validate defaultThreshold).errors = [] := by decide +kernel
  have hpath : (listedBooks false).collectionPath.toList = "/books".toList := by decide +kernel
  obtain ⟨component, hcomponent, haddress, -, -, hparameters, hagree⟩ := pages_agree_iff haccepted rfl
  rw [hpath] at haddress hparameters
  exact ⟨haccepted, rfl, component, hcomponent, haddress, hparameters, hagree.2 rfl⟩

/-- **Books that are listed in pages**: the service takes them, and the component does not ask for one. -/
theorem pagedBooks_disagree : ((listedBooks true).validate defaultThreshold).errors = [] ∧
    (listedBooks true).operations.read = true ∧ (listedBooks true).paginate = true ∧ (listedBooks true).TakesPages ∧
      ∃ component, (listedBooks true).component = .ok component ∧ ¬ AsksForPages component := by
  have hno : ((listedBooks true).validate defaultThreshold).errors = [] := by decide +kernel
  have haccepted := (errors_eq_nil_iff defaultThreshold _).1 hno
  obtain ⟨component, hcomponent⟩ := haccepted.exists_component_eq_ok
  exact ⟨hno, rfl, rfl, (haccepted.takesPages_iff rfl).2 rfl, component, hcomponent,
    haccepted.not_asksForPages rfl hcomponent⟩

end Schema

end Scaffold
