import Scaffold.Proofs.Naming.Identifier
import Scaffold.Proofs.Text.Parts
import Scaffold.Text.Digit
import Scaffold.Text.Quoted
/-!
# Proofs.Source.Token — reading the tokens of a generated text

The texts that are generated are read here without regard to how they came about: as words, as what stands between
quotes, and as single marks, white space apart.  Between quotes a quote is either written twice or stands behind a
backslash.  `Reads l ts` says that `l` is read as the tokens `ts` where a separator or nothing follows, and
`Closes l ts` that it is so whatever follows; larger texts are read by putting such pieces together.
-/
namespace Scaffold
namespace Source

open Text

/-- **How a quote gets between quotes.** -/
inductive Quoting where
  | doubled
  | escaped
deriving DecidableEq, Repr

/-- **A token**: a word, what stands between two quotes, or a mark. -/
inductive Token where
  | word (l : List Char)
  | quoted (quote : Char) (l : List Char)
  | mark (c : Char)
deriving DecidableEq, Repr

def isQuote (c : Char) : Bool := c = '"' || c = '\''

def isWordChar (c : Char) : Bool := !isBlank c && (Naming.isIdentifierPart c || c = '$' || decide (128 ≤ c.toNat))

def isSeparator (c : Char) : Bool := !isWordChar c && !isQuote c

/-- **What reading is in the middle of**: nothing, a word, a text between quotes, the same behind a backslash, or the
same with a quote that may be the first of two. -/
inductive Pending where
  | none
  | word (l : List Char)
  | quoted (quote : Char) (l : List Char)
  | escape (quote : Char) (l : List Char)
  | closed (quote : Char) (l : List Char)
deriving DecidableEq, Repr

namespace Pending

def begin (c : Char) : List Token × Pending :=
  if isBlank c then ([], .none)
  else if isQuote c then ([], .quoted c [])
  else if isWordChar c then ([], .word [c])
  else ([.mark c], .none)

/-- **One character read.** -/
def next (quoting : Quoting) : Pending → Char → List Token × Pending
  | .none, c => begin c
  | .word l, c => if isWordChar c then ([], .word (l ++ [c])) else (.word l :: (begin c).1, (begin c).2)
  | .quoted q l, c =>
    if c = q then
      match quoting with
      | .doubled => ([], .closed q l)
      | .escaped => ([.quoted q l], .none)
    else if quoting = .escaped ∧ c = '\\' then ([], .escape q (l ++ [c]))
    else ([], .quoted q (l ++ [c]))
  | .escape q l, c => ([], .quoted q (l ++ [c]))
  | .closed q l, c => if c = q then ([], .quoted q (l ++ [c])) else (.quoted q l :: (begin c).1, (begin c).2)

def finish : Pending → List Token
  | .word l => [.word l]
  | .closed q l => [.quoted q l]
  | _ => []

end Pending

def read (quoting : Quoting) (p : Pending) : List Char → List Token
  | [] => p.finish
  | c :: l => (p.next quoting c).1 ++ read quoting (p.next quoting c).2 l

def tokens (quoting : Quoting) (l : List Char) : List Token := read quoting .none l

def run (quoting : Quoting) (p : Pending) : List Char → List Token × Pending
  | [] => ([], p)
  | c :: l =>
    ((p.next quoting c).1 ++ (run quoting (p.next quoting c).2 l).1, (run quoting (p.next quoting c).2 l).2)

theorem read_append (quoting : Quoting) : ∀ (l : List Char) (p : Pending) (rest : List Char),
    read quoting p (l ++ rest) = (run quoting p l).1 ++ read quoting (run quoting p l).2 rest
  | [], _, _ => rfl
  | c :: l, p, rest => by rw [List.cons_append, read, read_append quoting l, run, List.append_assoc]

theorem run_append (quoting : Quoting) : ∀ (l : List Char) (p : Pending) (rest : List Char),
    run quoting p (l ++ rest) = ((run quoting p l).1 ++ (run quoting (run quoting p l).2 rest).1,
      (run quoting (run quoting p l).2 rest).2)
  | [], _, _ => rfl
  | c :: l, p, rest => by rw [List.cons_append, run, run_append quoting l, run, List.append_assoc]

/-! ## Pieces -/

variable {quoting : Quoting}

/-- Nothing follows, or a separator. -/
def Separated (rest : List Char) : Prop := ∀ c ∈ rest.head?, isSeparator c = true

/-- **The text is read as these tokens**, if a separator or nothing follows. -/
def Reads (quoting : Quoting) (l : List Char) (ts : List Token) : Prop :=
  ∀ rest, Separated rest → tokens quoting (l ++ rest) = ts ++ tokens quoting rest

/-- **The text is read as these tokens**, whatever follows. -/
def Closes (quoting : Quoting) (l : List Char) (ts : List Token) : Prop :=
  ∀ rest, tokens quoting (l ++ rest) = ts ++ tokens quoting rest

theorem separated_nil : Separated [] := by simp [Separated]

theorem Closes.reads {l : List Char} {ts : List Token} (h : Closes quoting l ts) : Reads quoting l ts :=
  fun rest _ => h rest

theorem Closes.of_run {l : List Char} {ts : List Token} (h : run quoting .none l = (ts, .none)) : Closes quoting l ts :=
  fun rest => by rw [tokens, read_append, h]; rfl

theorem closes_iff_run {l : List Char} {ts : List Token} :
    Closes quoting l ts ↔ run quoting .none l = (ts, .none) := by
  refine ⟨fun h => ?_, Closes.of_run⟩
  rcases hrun : run quoting .none l with ⟨us, p⟩
  have hread : ∀ rest, us ++ read quoting p rest = ts ++ tokens quoting rest := fun rest => by
    rw [← h rest, tokens, read_append, hrun]
  have hnil : us ++ p.finish = ts := by simpa [tokens, read, Pending.finish] using hread []
  -- what follows would go on with what is pending
  have hlength : ∀ rest, (read quoting p rest).length = p.finish.length + (tokens quoting rest).length := fun rest => by
    have := congrArg List.length (hread rest)
    rw [← hnil, List.append_assoc, List.length_append, List.length_append, List.length_append] at this
    omega
  have hword : isWordChar 'a' = true ∧ isWordChar 'b' = true := by decide
  have ha : tokens quoting ['a'] = [.word ['a']] ∧ tokens quoting ['b'] = [.word ['b']] := by cases quoting <;> decide
  cases p with
  | none => rw [← hnil]; simp [Pending.finish]
  | word w => simpa [read, Pending.next, Pending.finish, ha, hword] using hlength ['a']
  | quoted q w =>
    by_cases hq : 'a' = q
    · simpa [read, Pending.next, Pending.finish, ha, ← hq] using hlength ['b']
    · simpa [read, Pending.next, Pending.finish, ha, hq] using hlength ['a']
  | escape q w => simpa [read, Pending.next, Pending.finish, ha] using hlength ['a']
  | closed q w =>
    have := hlength [q]
    simp only [read, Pending.next, if_true, Pending.finish, List.append_nil, List.length_nil,
      List.length_singleton] at this
    omega

theorem Closes.nil : Closes quoting [] [] := fun _ => rfl

theorem Closes.append {a b : List Char} {ts us : List Token} (ha : Closes quoting a ts) (hb : Closes quoting b us) :
    Closes quoting (a ++ b) (ts ++ us) := fun rest => by
  rw [List.append_assoc, ha, hb, List.append_assoc]

theorem Closes.append_reads {a b : List Char} {ts us : List Token} (ha : Closes quoting a ts)
    (hb : Reads quoting b us) : Reads quoting (a ++ b) (ts ++ us) := fun rest hrest => by
  rw [List.append_assoc, ha, hb rest hrest, List.append_assoc]

theorem Reads.append_closes {a b : List Char} {ts us : List Token} (ha : Reads quoting a ts) (hb : Closes quoting b us)
    (hsep : ∀ rest, Separated (b ++ rest)) : Closes quoting (a ++ b) (ts ++ us) := fun rest => by
  rw [List.append_assoc, ha (b ++ rest) (hsep rest), hb, List.append_assoc]

theorem Reads.append {a b : List Char} {ts us : List Token} (ha : Reads quoting a ts) (hb : Reads quoting b us)
    (hsep : ∀ rest, Separated rest → Separated (b ++ rest)) : Reads quoting (a ++ b) (ts ++ us) := fun rest hrest => by
  rw [List.append_assoc, ha (b ++ rest) (hsep rest hrest), hb rest hrest, List.append_assoc]

theorem reads_join {sep : List Char} {us : List Token} (hsep : Closes quoting sep us)
    (hstart : ∀ rest, Separated (sep ++ rest)) : ∀ {ps : List (List Char)} {tss : List (List Token)},
    List.Forall₂ (Reads quoting) ps tss → Reads quoting (join sep ps) (join us tss)
  | _, _, .nil => Closes.nil.reads
  | _, _, .cons h .nil => h
  | _, _, .cons h (.cons h' hs) => by
    have ih := reads_join hsep hstart (List.Forall₂.cons h' hs)
    rw [join_cons sep (by simp), join_cons us (by simp)]
    exact (h.append_closes hsep hstart).append_reads ih

theorem separated_cons_append {c : Char} (h : isSeparator c = true) (l rest : List Char) :
    Separated (c :: l ++ rest) := by
  simpa [Separated] using h

/-- **A text that goes behind any other**: it is read as these tokens and does not go on with a word or with quotes. -/
structure Trails (quoting : Quoting) (l : List Char) (ts : List Token) : Prop where
  reads : Reads quoting l ts
  separated : ∀ rest, Separated rest → Separated (l ++ rest)

theorem Trails.nil : Trails quoting [] [] := ⟨Closes.nil.reads, fun _ h => h⟩

theorem Trails.append {a b : List Char} {ts us : List Token} (ha : Trails quoting a ts) (hb : Trails quoting b us) :
    Trails quoting (a ++ b) (ts ++ us) :=
  ⟨ha.reads.append hb.reads hb.separated, fun rest h => by
    rw [List.append_assoc]
    exact ha.separated _ (hb.separated rest h)⟩

theorem Reads.trails {l : List Char} {ts : List Token} (h : Reads quoting l ts) : Trails quoting (' ' :: l) ts :=
  ⟨(Closes.of_run rfl : Closes quoting [' '] []).append_reads h, fun rest _ => separated_cons_append rfl l rest⟩

theorem Reads.tokens_eq {l : List Char} {ts : List Token} (h : Reads quoting l ts) : tokens quoting l = ts := by
  simpa [tokens, read, Pending.finish] using h [] separated_nil

/-! ## Words -/

theorem read_word (l : List Char) : ∀ (w : List Char), (∀ c ∈ w, isWordChar c = true) → ∀ rest,
    read quoting (.word l) (w ++ rest) = read quoting (.word (l ++ w)) rest
  | [], _, rest => by simp
  | c :: w, h, rest => by
    rw [List.cons_append, read, Pending.next, if_pos (h c List.mem_cons_self), List.nil_append,
      read_word (l ++ [c]) w (fun d hd => h d (List.mem_cons_of_mem c hd)) rest]
    simp

theorem not_isBlank_of_isWordChar {c : Char} (h : isWordChar c = true) : isBlank c = false := by
  simp only [isWordChar, Bool.and_eq_true, Bool.not_eq_true'] at h
  exact h.1

theorem not_isQuote_of_isWordChar {c : Char} (h : isWordChar c = true) : isQuote c = false := by
  rw [← Bool.not_eq_true]
  intro hq
  simp only [isQuote, Bool.or_eq_true, decide_eq_true_eq] at hq
  rcases hq with rfl | rfl <;> revert h <;> decide

theorem isWordChar_of_part {c : Char} (h : Naming.isIdentifierPart c = true) : isWordChar c = true := by
  simp [isWordChar, h, Naming.isBlank_of_part h]

theorem read_word_of_separated (l : List Char) {rest : List Char} (h : Separated rest) :
    read quoting (.word l) rest = .word l :: tokens quoting rest := by
  cases rest with
  | nil => rfl
  | cons c rest =>
    have hc : isWordChar c = false := by
      have := h c rfl
      simp only [isSeparator, Bool.and_eq_true, Bool.not_eq_true'] at this
      exact this.1
    rw [read, Pending.next, if_neg (by simp [hc]), List.cons_append]
    rfl

def whole? (quoting : Quoting) (l : List Char) : Option (List Token) :=
  match run quoting .none l with
  | (ts, .none) => some ts
  | (ts, .word w) => some (ts ++ [.word w])
  | _ => none

theorem Reads.of_whole {l : List Char} {ts : List Token} (h : whole? quoting l = some ts) : Reads quoting l ts := by
  unfold whole? at h
  split at h
  · rename_i heq
    obtain rfl := Option.some.inj h
    exact (Closes.of_run heq).reads
  · rename_i heq
    obtain rfl := Option.some.inj h
    intro rest hrest
    rw [tokens, read_append, heq, read_word_of_separated _ hrest, List.append_assoc]
    rfl
  · cases h

theorem reads_word {w : List Char} (hne : w ≠ []) (h : ∀ c ∈ w, isWordChar c = true) :
    Reads quoting w [.word w] := by
  intro rest hrest
  cases w with
  | nil => exact absurd rfl hne
  | cons c w =>
    have hc := h c List.mem_cons_self
    rw [tokens, List.cons_append, read, Pending.next, Pending.begin, if_neg (by simp [not_isBlank_of_isWordChar hc]),
      if_neg (by simp [not_isQuote_of_isWordChar hc]), if_pos hc, List.nil_append,
      read_word [c] w (fun d hd => h d (List.mem_cons_of_mem c hd)), read_word_of_separated _ hrest]
    rfl

theorem reads_plainIdentifier {w : List Char} (h : Naming.isPlainIdentifier w = true) : Reads quoting w [.word w] :=
  reads_word (Naming.ne_nil_of_isPlainIdentifier h)
    (fun c hc => isWordChar_of_part (Naming.forall_mem_of_isPlainIdentifier h c hc))

def Pending.InWords : Pending → Prop
  | .none | .word _ => True
  | _ => False

/-- **Words and white space stay such**: only words are read, wherever reading stands between words. -/
theorem run_words (quoting : Quoting) : ∀ {l : List Char} {p : Pending}, p.InWords →
    (∀ c ∈ l, isWordChar c = true ∨ isBlank c = true) →
    (∀ t ∈ (run quoting p l).1, ∃ w, t = .word w) ∧ (run quoting p l).2.InWords
  | [], _, hp, _ => ⟨List.forall_mem_nil _, hp⟩
  | c :: l, p, hp, h => by
    obtain ⟨hc, hl⟩ := List.forall_mem_cons.1 h
    have hnext : (∀ t ∈ (p.next quoting c).1, ∃ w, t = .word w) ∧ (p.next quoting c).2.InWords := by
      have hbegin : (Pending.begin c).1 = [] ∧ (Pending.begin c).2.InWords := by
        rw [Pending.begin]
        rcases hc with hword | hblank
        · simp [not_isBlank_of_isWordChar hword, not_isQuote_of_isWordChar hword, hword, Pending.InWords]
        · simp [hblank, Pending.InWords]
      cases p with
      | none => exact ⟨by simp [Pending.next, hbegin.1], hbegin.2⟩
      | word w =>
        rw [Pending.next]
        split
        · exact ⟨List.forall_mem_nil _, trivial⟩
        · exact ⟨by simp [hbegin.1], hbegin.2⟩
      | _ => exact hp.elim
    obtain ⟨htokens, hpending⟩ := run_words quoting hnext.2 hl
    exact ⟨List.forall_mem_append.2 ⟨hnext.1, htokens⟩, hpending⟩

theorem exists_reads_words (quoting : Quoting) {l : List Char} (h : ∀ c ∈ l, isWordChar c = true ∨ isBlank c = true) :
    ∃ ts, (∀ t ∈ ts, ∃ w, t = .word w) ∧ Reads quoting l ts := by
  obtain ⟨htokens, hpending⟩ := run_words quoting (p := .none) trivial h
  cases hp : (run quoting .none l).2 with
  | none => exact ⟨_, htokens, (Closes.of_run (Prod.ext rfl hp)).reads⟩
  | word w =>
    refine ⟨(run quoting .none l).1 ++ [.word w], List.forall_mem_append.2 ⟨htokens, by simp⟩, fun rest hrest => ?_⟩
    rw [tokens, read_append, hp, read_word_of_separated w hrest, List.append_assoc]
    rfl
  | _ => exact (hp ▸ hpending).elim

theorem part_of_mem_numeral {n : Nat} {c : Char} (h : c ∈ numeral n) : Naming.isIdentifierPart c = true := by
  have hdigit := Nat.isDigit_of_mem_toDigits (by decide) (by decide) h
  simp only [Char.isDigit, Bool.and_eq_true, decide_eq_true_eq] at hdigit
  simp only [Naming.isIdentifierPart, isDigitAscii, Bool.or_eq_true, Bool.and_eq_true, decide_eq_true_eq]
  exact .inr ⟨hdigit.1, hdigit.2⟩

theorem reads_numeral (quoting : Quoting) (n : Nat) : Reads quoting (numeral n) [.word (numeral n)] :=
  reads_word Nat.toDigits_ne_nil (fun _ hc => isWordChar_of_part (part_of_mem_numeral hc))

/-! ## Texts between quotes -/

theorem not_isBlank_of_isQuote {c : Char} (h : isQuote c = true) : isBlank c = false := by
  simp only [isQuote, Bool.or_eq_true, decide_eq_true_eq] at h
  rcases h with rfl | rfl <;> decide

theorem run_doubled (q : Char) : ∀ (l a : List Char),
    run .doubled (.quoted q a) (doubled q l) = ([], .quoted q (a ++ l))
  | [], a => by simp [doubled, run]
  | c :: l, a => by
    have ih := run_doubled q l (a ++ [c])
    rw [List.append_assoc, List.singleton_append] at ih
    by_cases hc : c = q
    · have hcons : doubled q (c :: l) = c :: c :: doubled q l := by simp [doubled, hc]
      rw [hcons, run, Pending.next, if_pos hc, run, Pending.next, if_pos hc, ih]
      rfl
    · have hcons : doubled q (c :: l) = c :: doubled q l := by simp [doubled, hc]
      rw [hcons, run, Pending.next, if_neg hc, if_neg (by simp), ih]
      rfl

theorem read_closed_of_separated {q : Char} (hq : isQuote q = true) (l : List Char) {rest : List Char}
    (h : Separated rest) : read quoting (.closed q l) rest = .quoted q l :: tokens quoting rest := by
  cases rest with
  | nil => rfl
  | cons c rest =>
    have hc : c ≠ q := by
      rintro rfl
      have := h c rfl
      simp [isSeparator, hq] at this
    rw [read, Pending.next, if_neg hc, List.cons_append]
    rfl

theorem reads_doubled {q : Char} (hq : isQuote q = true) (l : List Char) :
    Reads .doubled (q :: doubled q l ++ [q]) [.quoted q l] := by
  intro rest hrest
  rw [tokens, List.append_assoc, List.cons_append, read, Pending.next, Pending.begin,
    if_neg (by simp [not_isBlank_of_isQuote hq]), if_pos hq, List.nil_append, read_append, run_doubled, List.nil_append,
    List.nil_append, List.singleton_append, read, Pending.next, if_pos rfl, List.nil_append,
    read_closed_of_separated hq l hrest]
  rfl

/-! ## Parts between commas -/

def Token.depthAfter (t : Token) (depth : Nat) : Nat :=
  if t = .mark '(' then depth + 1 else if t = .mark ')' then depth - 1 else depth

/-- **The parts between commas**, up to the bracket that closes; `depth` counts the brackets that were opened
besides. -/
def parts : (depth : Nat) → List Token → List (List Token)
  | _, [] => [[]]
  | depth, t :: ts =>
    if depth = 0 ∧ t = .mark ')' then [[]]
    else if depth = 0 ∧ t = .mark ',' then [] :: parts 0 ts
    else consPart t (parts (t.depthAfter depth) ts)

def depth? : (depth : Nat) → List Token → Option Nat
  | depth, [] => some depth
  | depth, t :: ts =>
    if depth = 0 ∧ (t = .mark ')' ∨ t = .mark ',') then none else depth? (t.depthAfter depth) ts

/-- **No part ends among the tokens**, and every bracket is closed behind them. -/
def Level (ts : List Token) : Prop := depth? 0 ts = some 0

def Token.IsFlat (t : Token) : Prop := t ≠ .mark '(' ∧ t ≠ .mark ')' ∧ t ≠ .mark ','

theorem parts_ne_nil (depth : Nat) (ts : List Token) : parts depth ts ≠ [] := by
  cases ts with
  | nil => simp [parts]
  | cons t ts =>
    rw [parts]
    split
    · simp
    · split
      · simp
      · rw [consPart_eq_prefixed]
        exact prefixed_ne_nil _ _

theorem parts_append : ∀ {ts : List Token} {depth behind : Nat}, depth? depth ts = some behind → ∀ rest,
    parts depth (ts ++ rest) = prefixed ts (parts behind rest)
  | [], depth, behind, h, rest => by
    obtain rfl := Option.some.inj h
    exact (prefixed_nil (parts_ne_nil depth rest)).symm
  | t :: ts, depth, behind, h, rest => by
    rw [depth?] at h
    split at h
    · cases h
    · rename_i hends
      rw [List.cons_append, parts, if_neg (fun hand => hends ⟨hand.1, .inl hand.2⟩),
        if_neg (fun hand => hends ⟨hand.1, .inr hand.2⟩), parts_append h rest, consPart_prefixed]

theorem depth?_append : ∀ (ts us : List Token) (depth : Nat),
    depth? depth (ts ++ us) = (depth? depth ts).bind (fun behind => depth? behind us)
  | [], _, _ => rfl
  | t :: ts, us, depth => by
    rw [List.cons_append, depth?, depth?]
    split
    · rfl
    · exact depth?_append ts us _

theorem Level.append {ts us : List Token} (ht : Level ts) (hu : Level us) : Level (ts ++ us) := by
  rw [Level, depth?_append, ht]
  exact hu

theorem level_of_isFlat : ∀ {ts : List Token}, (∀ t ∈ ts, t.IsFlat) → Level ts
  | [], _ => rfl
  | t :: ts, h => by
    obtain ⟨hopen, hclose, hcomma⟩ := h t List.mem_cons_self
    rw [Level, depth?, if_neg (by simp [hclose, hcomma]), Token.depthAfter, if_neg hopen, if_neg hclose]
    exact level_of_isFlat (fun u hu => h u (List.mem_cons_of_mem t hu))

theorem level_bracketed {ts : List Token} (h : ∀ t ∈ ts, t ≠ .mark '(' ∧ t ≠ .mark ')') :
    Level (.mark '(' :: ts ++ [.mark ')']) := by
  have hinner : ∀ {ts : List Token}, (∀ t ∈ ts, t ≠ .mark '(' ∧ t ≠ .mark ')') → depth? 1 ts = some 1 := by
    intro ts
    induction ts with
    | nil => exact fun _ => rfl
    | cons t ts ih =>
      intro h
      obtain ⟨hopen, hclose⟩ := h t List.mem_cons_self
      rw [depth?, if_neg (by simp), Token.depthAfter, if_neg hopen, if_neg hclose]
      exact ih (fun u hu => h u (List.mem_cons_of_mem t hu))
  rw [Level, depth?_append, depth?, if_neg (by simp), Token.depthAfter, if_pos rfl, hinner h]
  rfl

/-- **Level parts are found again** where commas are put between them. -/
theorem parts_join : ∀ {ps : List (List Token)}, ps ≠ [] → (∀ p ∈ ps, Level p) → ∀ rest,
    parts 0 (join [.mark ','] ps ++ .mark ')' :: rest) = ps
  | [], h, _, _ => absurd rfl h
  | [p], _, h, rest => by
    rw [join, parts_append (h p List.mem_cons_self)]
    simp [parts, prefixed]
  | p :: q :: ps, _, h, rest => by
    have ih := parts_join (List.cons_ne_nil q ps) (fun r hr => h r (List.mem_cons_of_mem p hr)) rest
    rw [join_cons _ (List.cons_ne_nil q ps), List.append_assoc, List.append_assoc,
      parts_append (h p List.mem_cons_self), List.singleton_append, parts, if_neg (by simp), if_pos (by simp), ih]
    simp [prefixed]

end Source
end Scaffold
