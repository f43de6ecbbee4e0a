import Scaffold.Proofs.Source.Declaration
/-!
# Proofs.Source.Block — lines, and the blocks that they make

A text is read line by line.  A block is what is indented behind its header, and in the body of a class the lines of
the first level are declarations or assignments.  Lines that are written one after the other are found again if none of
them holds a line feed (`textLines_append`), and so is a block among them (`blockAfter_eq`).
-/
namespace Scaffold
namespace Source

open Text

def textLines (text : String) : List (List Char) := split '\n' text.toList

def isInner (l : List Char) : Bool := l.isEmpty || l.head? = some ' '

def behind (line : String) (lines : List (List Char)) : List (List Char) :=
  (lines.dropWhile (fun l => decide (l ≠ line.toList))).drop 1

/-- **The block behind a header.** -/
def blockAfter (header : String) (lines : List (List Char)) : List (List Char) :=
  (behind header lines).takeWhile isInner

def between (first last : String) (lines : List (List Char)) : List (List Char) :=
  (behind first lines).takeWhile (fun l => decide (l ≠ last.toList))

def depth (l : List Char) : Nat := (l.takeWhile (fun c => decide (c = ' '))).length

def statement? (indent : Nat) (l : List Char) : Option (List Token) :=
  if depth l = indent then some (tokens .escaped l) else none

def declared? (l : List Char) : Option Declaration := (statement? 4 l).bind declaration?

/-- **The declarations in the body of a class.** -/
def declarations (block : List (List Char)) : List Declaration := block.filterMap declared?

def assigned? (name : String) (block : List (List Char)) : Option (List Token) :=
  block.findSome? (fun l => (statement? 4 l).bind (valueFor? name))

def entry? : List Token → Option (List Char × List Token)
  | .quoted '"' key :: .mark ':' :: value => some (key, value)
  | _ => none

def entered? (l : List Char) : Option (List Char × List Token) := entry? (tokens .escaped l)

/-- **The entries of keyed data**, one a line. -/
def entries (lines : List (List Char)) : List (List Char × List Token) := lines.filterMap entered?

/-! ## Lines -/

def Lacks (c : Char) (s : String) : Prop := c ∉ s.toList

instance (c : Char) (s : String) : Decidable (Lacks c s) := inferInstanceAs (Decidable (_ ∉ _))

theorem lacks_ofList {c : Char} {l : List Char} (h : c ∉ l) : Lacks c (String.ofList l) := by
  rwa [Lacks, String.toList_ofList]

theorem lacks_append {c : Char} {a b : String} : Lacks c (a ++ b) ↔ Lacks c a ∧ Lacks c b := by
  simp [Lacks, not_or]

theorem lacks_intercalate {c : Char} {sep : String} (hsep : Lacks c sep) {l : List String} (h : ∀ x ∈ l, Lacks c x) :
    Lacks c (sep.intercalate l) := by
  intro hmem
  rw [String.toList_intercalate, intercalate_eq_join] at hmem
  rcases mem_or_of_mem_join hmem with hmem | ⟨p, hp, hmem⟩
  · exact hsep hmem
  · obtain ⟨x, hx, rfl⟩ := List.mem_map.1 hp
    exact h x hx hmem

def OneLine (s : String) : Prop := '\n' ∉ s.toList

instance (s : String) : Decidable (OneLine s) := inferInstanceAs (Decidable (_ ∉ _))

theorem oneLine_ofList {l : List Char} (h : '\n' ∉ l) : OneLine (String.ofList l) := lacks_ofList h

theorem forall_oneLine_cons {l : List Char} {rest : List String} (h : '\n' ∉ l) (hrest : ∀ x ∈ rest, OneLine x) :
    ∀ x ∈ String.ofList l :: rest, OneLine x :=
  List.forall_mem_cons.2 ⟨oneLine_ofList h, hrest⟩

theorem oneLine_append {a b : String} : OneLine (a ++ b) ↔ OneLine a ∧ OneLine b := lacks_append

theorem oneLine_of_shown {s : String} (h : ∀ c ∈ s.toList, IsShown c) : OneLine s := fun hfeed =>
  absurd (h _ hfeed) (by decide)

theorem oneLine_of_part {s : String} (h : ∀ c ∈ s.toList, Naming.isIdentifierPart c = true) : OneLine s := fun hfeed =>
  absurd (h _ hfeed) (by decide)

theorem oneLine_quoted (w : Wording) : OneLine (quoted w) :=
  oneLine_of_shown (fun c hc => isShown_of_mem_literal (by simpa [quoted] using hc))

theorem oneLine_intercalate {sep : String} (hsep : OneLine sep) {l : List String} (h : ∀ x ∈ l, OneLine x) :
    OneLine (sep.intercalate l) := lacks_intercalate hsep h

theorem textLines_eq_flatMap {lines : List String} (hne : lines ≠ []) :
    textLines ("\n".intercalate lines ++ "\n") = lines.flatMap textLines ++ [[]] := by
  have hsplit := split_flatMap_append '\n' (lines.map String.toList) []
  have hmap : (lines.map String.toList).flatMap (split '\n') = lines.flatMap textLines := List.flatMap_map _ _ _
  rw [List.append_nil, hmap] at hsplit
  rw [textLines, toList_lines hne, hsplit]
  rfl

theorem textLines_of_oneLine {l : String} (h : OneLine l) : textLines l = [l.toList] := split_of_not_mem h

theorem flatMap_textLines {lines : List String} (h : ∀ l ∈ lines, OneLine l) :
    lines.flatMap textLines = lines.map String.toList := by
  have hself := flatMap_split_of_not_mem (List.forall_mem_map.2 h)
  rwa [List.flatMap_map] at hself

/-- **Lines without line feeds are found again** at the beginning of a text, whatever follows them. -/
theorem textLines_append {pre : List String} (hne : pre ≠ []) (h : ∀ l ∈ pre, OneLine l) (rest : List String) :
    textLines ("\n".intercalate (pre ++ rest) ++ "\n") =
      pre.map String.toList ++ split '\n' ((rest.map String.toList).flatMap (fun l => l ++ ['\n'])) := by
  have htext : ("\n".intercalate (pre ++ rest) ++ "\n").toList =
    (pre.map String.toList).flatMap (fun l => l ++ ['\n']) ++
      (rest.map String.toList).flatMap (fun l => l ++ ['\n']) := by
    rw [toList_lines (by simp [hne]), List.map_append, List.flatMap_append]
  rw [textLines, htext, split_flatMap (List.forall_mem_map.2 h)]

theorem textLines_complete {lines : List String} (hne : lines ≠ []) (h : ∀ l ∈ lines, OneLine l) :
    textLines ("\n".intercalate lines ++ "\n") = lines.map String.toList ++ [[]] := by
  have htext := textLines_append hne h []
  rwa [List.append_nil] at htext

/-! ## Blocks -/

theorem behind_append {line : String} {pre : List (List Char)} (h : line.toList ∉ pre) (rest : List (List Char)) :
    behind line (pre ++ line.toList :: rest) = rest := by
  have hpre : ∀ l ∈ pre, decide (l ≠ line.toList) = true := fun l hl => by
    simpa using fun heq : l = line.toList => h (heq ▸ hl)
  rw [behind, List.dropWhile_append_of_pos hpre, List.dropWhile_cons, if_neg (by simp), List.drop_succ_cons,
    List.drop_zero]

theorem blockAfter_eq {header : String} {pre body post : List (List Char)} (hpre : header.toList ∉ pre)
    (hbody : ∀ l ∈ body, isInner l = true) (hpost : ∀ l ∈ post.head?, isInner l = false) :
    blockAfter header (pre ++ header.toList :: (body ++ post)) = body := by
  rw [blockAfter, behind_append hpre, List.takeWhile_append_of_pos hbody]
  cases post with
  | nil => simp
  | cons l post => simp [hpost l rfl]

/-- A header with the lines of its block. -/
structure Block where
  header : String
  body : List String

namespace Block

def lines (b : Block) : List String := b.header :: b.body

/-- **Blocks can be told apart**: their headers differ, and only headers are not indented. -/
structure Apart (blocks : List Block) : Prop where
  distinct : (blocks.map header).Nodup
  headers : ∀ b ∈ blocks, isInner b.header.toList = false
  bodies : ∀ b ∈ blocks, ∀ l ∈ b.body, isInner l.toList = true

theorem header_not_mem_before {as cs : List Block} {b : Block} (h : Apart (as ++ b :: cs)) {pre : List String}
    (hpre : b.header ∉ pre) : b.header.toList ∉ (pre ++ as.flatMap lines).map String.toList := by
  intro hmem
  obtain ⟨l, hl, heq⟩ := List.mem_map.1 hmem
  obtain rfl := String.toList_inj.1 heq
  rcases List.mem_append.1 hl with hl | hl
  · exact hpre hl
  · obtain ⟨a, ha, hl⟩ := List.mem_flatMap.1 hl
    rcases List.mem_cons.1 hl with heq | hl
    · have hdistinct := h.distinct
      rw [List.map_append, List.map_cons, List.nodup_append] at hdistinct
      exact hdistinct.2.2 _ (List.mem_map_of_mem ha) _ List.mem_cons_self heq.symm
    · -- no line of a body is a header, since it is indented
      have hinner := h.bodies a (List.mem_append_left _ ha) _ hl
      rw [h.headers b (by simp)] at hinner
      cases hinner

theorem blockAfter_eq {blocks : List Block} (h : Apart blocks) {pre : List String}
    (hpre : ∀ b ∈ blocks, b.header ∉ pre) {next : String} (hnext : isInner next.toList = false)
    (post : List (List Char)) {b : Block} (hb : b ∈ blocks) :
    blockAfter b.header ((pre ++ blocks.flatMap lines ++ [next]).map String.toList ++ post) =
      b.body.map String.toList := by
  obtain ⟨as, cs, rfl⟩ := List.append_of_mem hb
  have hbody : ∀ l ∈ b.body.map String.toList, isInner l = true := List.forall_mem_map.2 (h.bodies b hb)
  have hafter : ∀ l ∈ ((cs.flatMap lines ++ [next]).map String.toList ++ post).head?, isInner l = false := by
    cases cs with
    | nil =>
      intro l hl
      obtain rfl := Option.some.inj hl
      exact hnext
    | cons c cs =>
      intro l hl
      obtain rfl := Option.some.inj hl
      exact h.headers c (by simp)
  have hlines : (pre ++ (as ++ b :: cs).flatMap lines ++ [next]).map String.toList ++ post =
      (pre ++ as.flatMap lines).map String.toList ++ b.header.toList ::
        (b.body.map String.toList ++ ((cs.flatMap lines ++ [next]).map String.toList ++ post)) := by
    simp [lines]
  rw [hlines, Source.blockAfter_eq (header_not_mem_before h (hpre b hb)) hbody hafter]

end Block

theorem between_eq {first last : String} {pre body : List (List Char)} (hpre : first.toList ∉ pre)
    (hbody : last.toList ∉ body) (post : List (List Char)) :
    between first last (pre ++ first.toList :: (body ++ last.toList :: post)) = body := by
  have hall : ∀ l ∈ body, decide (l ≠ last.toList) = true := fun l hl => by
    simpa using fun heq : l = last.toList => hbody (heq ▸ hl)
  rw [between, behind_append hpre, List.takeWhile_append_of_pos hall]
  simp

theorem between_map_toList {first last : String} {pre body : List String} (hpre : first ∉ pre) (hbody : last ∉ body)
    (post : List String) (rest : List (List Char)) :
    between first last ((pre ++ first :: (body ++ last :: post)).map String.toList ++ rest) =
      body.map String.toList := by
  have hmem : ∀ {s : String} {l : List String}, s ∉ l → s.toList ∉ l.map String.toList := fun hs hin => by
    obtain ⟨t, ht, heq⟩ := List.mem_map.1 hin
    exact hs (String.toList_inj.1 heq ▸ ht)
  simp only [List.map_append, List.map_cons, List.append_assoc, List.cons_append]
  exact between_eq (hmem hpre) (hmem hbody) _

/-! ## Indented lines -/

theorem isInner_append {a b : String} (h : a.toList.head? = some ' ') : isInner (a ++ b).toList = true := by
  rw [isInner, String.toList_append, List.head?_append, h]
  simp

theorem depth_append {a b : String} (h : depth a.toList ≠ a.toList.length) :
    depth (a ++ b).toList = depth a.toList := by
  rw [depth] at h
  rw [depth, depth, String.toList_append, List.takeWhile_append, if_neg h]

theorem closes_spaces : ∀ n, Closes .escaped (List.replicate n ' ') []
  | 0 => Closes.nil
  | n + 1 => (Closes.of_run rfl : Closes .escaped [' '] []).append (closes_spaces n)

theorem depth_replicate (n : Nat) {l : List Char} (h : l.head? ≠ some ' ') : depth (List.replicate n ' ' ++ l) = n := by
  have hspaces : ∀ c ∈ List.replicate n ' ', decide (c = ' ') = true := by simp
  have hrest : l.takeWhile (fun c => decide (c = ' ')) = [] := by
    cases l with
    | nil => rfl
    | cons c l => simp_all
  rw [depth, List.takeWhile_append_of_pos hspaces, hrest]
  simp

theorem statement?_replicate (n : Nat) {l : List Char} (h : l.head? ≠ some ' ') :
    statement? n (List.replicate n ' ' ++ l) = some (tokens .escaped l) := by
  rw [statement?, if_pos (depth_replicate n h), closes_spaces n]
  rfl

/-- **A line that declares a name**, with what it says behind the name. -/
theorem declared?_line {name text : String} {ts : List Token} (hname : Naming.isPlainIdentifier name.toList = true)
    (h : Trails .escaped text.toList (.mark ':' :: ts)) :
    declared? ("    " ++ name ++ text).toList = some ⟨name.toList, (sides ts).1, (sides ts).2⟩ := by
  obtain ⟨c, rest, hc, hstart, -⟩ := Naming.isPlainIdentifier_eq_true.1 hname
  have hline : ("    " ++ name ++ text).toList = List.replicate 4 ' ' ++ (name.toList ++ text.toList) := by
    rw [String.toList_append, String.toList_append, List.append_assoc]
    rfl
  have hspace : (name.toList ++ text.toList).head? ≠ some ' ' := by
    rw [hc, List.cons_append, List.head?_cons]
    intro heq
    obtain rfl := Option.some.inj heq
    cases hstart
  have hword : Reads .escaped name.toList [.word name.toList] := reads_plainIdentifier hname
  rw [hline, declared?, statement?_replicate 4 hspace, (hword.append h.reads h.separated).tokens_eq]
  rfl

theorem declared?_eq_none {l : List Char} (h : depth l ≠ 4) : declared? l = none := by
  rw [declared?, statement?, if_neg h, Option.bind_none]

theorem declarations_append (a b : List (List Char)) : declarations (a ++ b) = declarations a ++ declarations b :=
  List.filterMap_append

theorem declarations_eq_nil {lines : List String} (h : ∀ l ∈ lines, declared? l.toList = none) :
    declarations (lines.map String.toList) = [] :=
  List.filterMap_eq_nil_iff.2 (List.forall_mem_map.2 h)

theorem declarations_map {α : Type} {line : α → String} {f : α → Declaration} {as : List α}
    (h : ∀ a ∈ as, declared? (line a).toList = some (f a)) :
    declarations ((as.map line).map String.toList) = as.map f := by
  rw [declarations, List.map_map, List.filterMap_map, ← List.filterMap_eq_map]
  exact List.filterMap_congr h

theorem entries_map {α : Type} {line : α → String} {f : α → List Char × List Token} {as : List α}
    (h : ∀ a ∈ as, entered? (line a).toList = some (f a)) : entries ((as.map line).map String.toList) = as.map f := by
  rw [entries, List.map_map, List.filterMap_map, ← List.filterMap_eq_map]
  exact List.filterMap_congr h

/-! ## Declarations with and without a value -/

def initialised : List Token → List Token
  | [] => []
  | value => .mark '=' :: value

theorem sides_initialised {ts : List Token} (h : ∀ t ∈ ts, t ≠ .mark '=') (value : List Token) :
    sides (ts ++ initialised value) = (ts, value) := by
  cases value with
  | nil => rw [initialised, List.append_nil, sides_of_not_mem h]
  | cons t ts => exact sides_append h _

theorem trails_annotated {text annotation : String} {ts value : List Token}
    (hannotated : Reads .escaped annotation.toList ts) (hvalue : Trails .escaped text.toList (initialised value)) :
    Trails .escaped (": " ++ annotation ++ text).toList (.mark ':' :: (ts ++ initialised value)) := by
  have hcolon : Closes .escaped [':'] [.mark ':'] := Closes.of_run rfl
  have hrest := hannotated.trails.append hvalue
  have htext : (": " ++ annotation ++ text).toList = [':'] ++ (' ' :: annotation.toList ++ text.toList) := by
    have hfirst : ": ".toList = [':', ' '] := rfl
    rw [String.toList_append, String.toList_append, hfirst]
    rfl
  rw [htext]
  exact ⟨hcolon.append_reads hrest.reads, fun rest _ => separated_cons_append rfl _ rest⟩

theorem declared?_annotated {name annotation text : String} {ts value : List Token}
    (hname : Naming.isPlainIdentifier name.toList = true) (hannotated : Reads .escaped annotation.toList ts)
    (hts : ∀ t ∈ ts, t ≠ .mark '=') (hvalue : Trails .escaped text.toList (initialised value)) :
    declared? ("    " ++ name ++ ": " ++ annotation ++ text).toList = some ⟨name.toList, ts, value⟩ := by
  have hline : "    " ++ name ++ ": " ++ annotation ++ text = "    " ++ name ++ (": " ++ annotation ++ text) := by
    simp only [String.append_assoc]
  rw [hline, declared?_line hname (trails_annotated hannotated hvalue), sides_initialised hts]

end Source
end Scaffold
