import Scaffold.Proofs.Naming.Words
import Scaffold.Proofs.Source.Token
import Scaffold.Text.Quoted
/-!
# Proofs.Source.Literal — what a double-quoted literal denotes

Generated literals are read in two languages, that of the modules and that of the component.  Both know the escapes that
are written, but they do not agree on what a text is made of: code points in a module, 16-bit units in the component.
`decode` reads what stands between the quotes as either language has it, character by character.  What is written
denotes the 16-bit units of the text in both (`decode_literal`), and so the text itself in a module only if no character
needs two of them.
-/
namespace Scaffold
namespace Text

def Sign.point : Sign → Nat
  | .char c => c.toNat
  | .half n => firstHalf + n

/-- **The 16-bit units of a code point.** -/
def unitsOf (n : Nat) : List Nat :=
  if n < 0x10000 then [n] else [0xd800 + (n - 0x10000) / 0x400, 0xdc00 + (n - 0x10000) % 0x400]

theorem unitsOf_ne_nil (n : Nat) : unitsOf n ≠ [] := by
  unfold unitsOf
  split <;> simp

theorem length_le_length_unitsOf : ∀ (l : List Nat), l.length ≤ (l.flatMap unitsOf).length
  | [] => Nat.le_refl 0
  | n :: l => by
    have ih := length_le_length_unitsOf l
    have hn := List.length_pos_of_ne_nil (unitsOf_ne_nil n)
    rw [List.flatMap_cons, List.length_append, List.length_cons]
    omega

theorem unitsOf_eq_self_iff : ∀ (l : List Nat), l.flatMap unitsOf = l ↔ ∀ n ∈ l, n < 0x10000
  | [] => by simp
  | n :: l => by
    rw [List.flatMap_cons, List.forall_mem_cons, ← unitsOf_eq_self_iff l]
    by_cases hn : n < 0x10000
    · simp [unitsOf, hn]
    · have hlength := length_le_length_unitsOf l
      refine iff_of_false (fun h => ?_) (fun h => hn h.1)
      have htwo : (unitsOf n).length = 2 := by simp [unitsOf, hn]
      have := congrArg List.length h
      rw [List.length_append, htwo, List.length_cons] at this
      omega

end Text

namespace Source

open Text

/-- **The language in which a literal is read.** -/
inductive Dialect where
  | module
  | component
deriving DecidableEq, Repr

namespace Dialect

def elements : Dialect → Nat → List Nat
  | .module, n => [n]
  | .component, n => unitsOf n

end Dialect

/-- **The escape that reading is in the middle of.** -/
inductive Escape where
  | none
  | begun
  | hex (left value : Nat)
  | unicode
  | braced (value? : Option Nat)
  | octal (left value : Nat)
  | zero
  | returned
deriving DecidableEq, Repr

namespace Escape

variable (d : Dialect)

def plain (c : Char) : Option (List Nat × Escape) :=
  if c = '\\' then some ([], .begun)
  else if c = '\n' ∨ c = '\r' then Option.none
  else some (d.elements c.toNat, .none)

def digit (left value : Nat) (c : Char) : Option (List Nat × Escape) :=
  (hexValue? c).bind (fun h =>
    let n := 16 * value + h
    if 1 < left then some ([], .hex (left - 1) n)
    else if n ≤ 0x10ffff then some (d.elements n, .none) else Option.none)

def short? (c : Char) : Option Nat :=
  if c = '\\' ∨ c = '"' ∨ c = '\'' then some c.toNat
  else if c = 'n' then some 10
  else if c = 'r' then some 13
  else if c = 't' then some 9
  else if c = 'b' then some 8
  else if c = 'f' then some 12
  else if c = 'v' then some 11
  else Option.none

/-- The character behind a backslash, in a module: what is no escape stands for itself, backslash and all.  Named
characters are not read. -/
def moduleBegun (c : Char) : Option (List Nat × Escape) :=
  if c = 'a' then some ([7], .none)
  else if c = 'u' then some ([], .hex 4 0)
  else if c = 'U' then some ([], .hex 8 0)
  else if c = 'N' then Option.none
  else if 48 ≤ c.toNat ∧ c.toNat ≤ 55 then some ([], .octal 2 (c.toNat - 48))
  else some ('\\'.toNat :: Dialect.module.elements c.toNat, .none)

/-- The character behind a backslash, in the component: what is no escape stands for itself, without the backslash. -/
def componentBegun (c : Char) : Option (List Nat × Escape) :=
  if c = 'u' then some ([], .unicode)
  else if c = '0' then some ([], .zero)
  else if isDigitAscii c then Option.none
  else if c.toNat = 0x2028 ∨ c.toNat = 0x2029 then some ([], .none)
  else some (Dialect.component.elements c.toNat, .none)

def begin (c : Char) : Option (List Nat × Escape) :=
  match short? c with
  | some n => some ([n], .none)
  | Option.none =>
    if c = '\n' then some ([], .none)
    else if c = '\r' then some ([], .returned)
    else if c = 'x' then some ([], .hex 2 0)
    else
      match d with
      | .module => moduleBegun c
      | .component => componentBegun c

def next : Escape → Char → Option (List Nat × Escape)
  | .none, c => plain d c
  | .begun, c => begin d c
  | .hex left value, c => digit d left value c
  | .unicode, c => if c = '\x7b' then some ([], .braced Option.none) else digit d 4 0 c
  | .braced value?, c =>
    if c = '\x7d' then value?.map (fun n => (d.elements n, .none))
    else
      (hexValue? c).bind (fun h =>
        let n := 16 * value?.getD 0 + h
        if n ≤ 0x10ffff then some ([], .braced (some n)) else Option.none)
  | .octal left value, c =>
    if 0 < left ∧ 48 ≤ c.toNat ∧ c.toNat ≤ 55 then some ([], .octal (left - 1) (8 * value + (c.toNat - 48)))
    else (plain d c).map (fun p => (value :: p.1, p.2))
  | .zero, c => if isDigitAscii c then Option.none else (plain d c).map (fun p => (0 :: p.1, p.2))
  | .returned, c => if c = '\n' then some ([], .none) else plain d c

def finish : Escape → Option (List Nat)
  | .none | .returned => some []
  | .octal _ value => some [value]
  | .zero => some [0]
  | _ => Option.none

end Escape

def decodeFrom (d : Dialect) (e : Escape) : List Char → Option (List Nat)
  | [] => e.finish
  | c :: l => (e.next d c).bind (fun p => (decodeFrom d p.2 l).map (p.1 ++ ·))

/-- **The text that stands between quotes**, in what the language makes texts of; nothing if it is no literal. -/
def decode (d : Dialect) (l : List Char) : Option (List Nat) := decodeFrom d .none l

/-! ## Pieces of literals -/

variable {d : Dialect}

/-- **The piece denotes these elements**, whatever follows. -/
def Denotes (d : Dialect) (l : List Char) (ns : List Nat) : Prop :=
  ∀ rest, decode d (l ++ rest) = (decode d rest).map (ns ++ ·)

theorem Denotes.nil : Denotes d [] [] := fun rest => by cases h : decode d rest <;> simp [h]

theorem Denotes.append {a b : List Char} {ns ms : List Nat} (ha : Denotes d a ns) (hb : Denotes d b ms) :
    Denotes d (a ++ b) (ns ++ ms) := fun rest => by
  rw [List.append_assoc, ha, hb, Option.map_map]
  simp [Function.comp_def]

theorem Denotes.flatMap {α : Type} {f : α → List Char} {g : α → List Nat} (h : ∀ a, Denotes d (f a) (g a)) :
    ∀ l : List α, Denotes d (l.flatMap f) (l.flatMap g)
  | [] => Denotes.nil
  | a :: l => (h a).append (Denotes.flatMap h l)

theorem Denotes.decode_eq {l : List Char} {ns : List Nat} (h : Denotes d l ns) : decode d l = some ns := by
  simpa [decode, decodeFrom, Escape.finish] using h []

theorem hexValue?_hexDigit : ∀ n < 16, hexValue? (hexDigit n) = some n := by decide

theorem decodeFrom_hex (n value : Nat) {left : Nat} (h : 0 < left) (rest : List Char) :
    decodeFrom d (.hex (left + 1) value) (hexDigit (n % 16) :: rest) =
      decodeFrom d (.hex left (16 * value + n % 16)) rest := by
  simp [decodeFrom, Escape.next, Escape.digit, hexValue?_hexDigit _ (Nat.mod_lt n (by decide)), h]

theorem denotes_unitEscape {n : Nat} (h : n < 0x10000) : Denotes d (unitEscape n) [n] := fun rest => by
  have hdigits : unitEscape n ++ rest = '\\' :: 'u' :: hexDigit (n / 16 / 16 / 16 % 16) ::
      hexDigit (n / 16 / 16 % 16) :: hexDigit (n / 16 % 16) :: hexDigit (n % 16) :: rest := by
    simp [unitEscape, hex]
  -- in the component the first digit decides against braces
  have hbegun : ∀ r, decodeFrom d .none ('\\' :: 'u' :: hexDigit (n / 16 / 16 / 16 % 16) :: r) =
      decodeFrom d (.hex 4 0) (hexDigit (n / 16 / 16 / 16 % 16) :: r) := fun r => by
    have hbrace : hexDigit (n / 16 / 16 / 16 % 16) ≠ '\x7b' := by
      have : ∀ m < 16, hexDigit m ≠ '\x7b' := by decide
      exact this _ (Nat.mod_lt _ (by decide))
    cases d <;> simp [decodeFrom, Escape.next, Escape.plain, Escape.begin, Escape.short?, Escape.moduleBegun,
      Escape.componentBegun, hbrace, Function.comp_def]
  have hlast : decodeFrom d (.hex 1 (16 * (16 * (n / 16 / 16 / 16 % 16) + n / 16 / 16 % 16) + n / 16 % 16))
      (hexDigit (n % 16) :: rest) = (decode d rest).map ([n] ++ ·) := by
    have hvalue : 16 * (16 * (16 * (n / 16 / 16 / 16 % 16) + n / 16 / 16 % 16) + n / 16 % 16) + n % 16 = n := by omega
    have hle : n ≤ 0x10ffff := by omega
    have helements : d.elements n = [n] := by cases d <;> simp [Dialect.elements, unitsOf, h]
    simp [decodeFrom, Escape.next, Escape.digit, hexValue?_hexDigit _ (Nat.mod_lt n (by decide)), hvalue, hle,
      helements, decode]
  rw [hdigits, decode, hbegun, decodeFrom_hex _ _ (by decide), decodeFrom_hex _ _ (by decide),
    decodeFrom_hex _ _ (by decide)]
  simpa using hlast

theorem denotes_short {c : Char} {n : Nat} (h : Escape.short? c = some n) : Denotes d ['\\', c] [n] := fun rest => by
  simp [decode, decodeFrom, Escape.next, Escape.plain, Escape.begin, h, Function.comp_def]

theorem denotes_plain {c : Char} (hc : c ≠ '\\') (hlow : 0x20 ≤ c.toNat) (hhigh : c.toNat ≤ 0x7e) :
    Denotes d [c] [c.toNat] := fun rest => by
  have hfeed : ¬ (c = '\n' ∨ c = '\r') := by
    rintro (rfl | rfl) <;> revert hlow <;> decide
  have helements : d.elements c.toNat = [c.toNat] := by
    have : c.toNat < 0x10000 := by omega
    cases d <;> simp [Dialect.elements, unitsOf, this]
  simp [decode, decodeFrom, Escape.next, Escape.plain, hc, hfeed, helements]

/-! ## Generated literals -/

def IsShown (c : Char) : Prop := 0x20 ≤ c.toNat ∧ c.toNat ≤ 0x7e

instance (c : Char) : Decidable (IsShown c) := inferInstanceAs (Decidable (_ ∧ _))

def IsPlain (c : Char) : Prop := IsShown c ∧ c ≠ '"' ∧ c ≠ '\\'

instance (c : Char) : Decidable (IsPlain c) := inferInstanceAs (Decidable (_ ∧ _))

/-- **How a character is written**: by one letter behind a backslash, as itself, or by its 16-bit units. -/
inductive Written (c : Char) : List Char → Prop where
  | short {e : Char} (shown : IsShown e) (meaning : Escape.short? e = some c.toNat) (below : c.toNat < 0x10000) :
    Written c ['\\', e]
  | plain (h : IsPlain c) : Written c [c]
  | unit (h : c.toNat < 0x10000) : Written c (unitEscape c.toNat)
  | pair (low : ¬ c.toNat < 0x10000) (high : c.toNat < 0x110000) : Written c
    (unitEscape (0xd800 + (c.toNat - 0x10000) / 0x400) ++ unitEscape (0xdc00 + (c.toNat - 0x10000) % 0x400))

theorem written_literalChar (c : Char) : Written c (literalChar c) := by
  unfold literalChar
  repeat' split
  iterate 7 (next => subst_vars; exact .short (by decide) rfl (by decide))
  · rename_i hquote hslash _ _ _ _ _ hshown
    exact .plain ⟨hshown, hquote, hslash⟩
  · rename_i hbelow
    exact .unit hbelow
  · rename_i hlow
    have hvalid : c.val.toNat < 0xd800 ∨ 0xdfff < c.val.toNat ∧ c.val.toNat < 0x110000 := c.valid
    refine .pair hlow ?_
    simp only [Char.toNat]
    omega

theorem Written.denotes {c : Char} {l : List Char} (h : Written c l) : Denotes d l (unitsOf c.toNat) := by
  cases h with
  | short shown meaning below =>
    rw [unitsOf, if_pos below]
    exact denotes_short meaning
  | plain h =>
    have hbelow : c.toNat < 0x10000 := Nat.lt_of_le_of_lt h.1.2 (by decide)
    rw [unitsOf, if_pos hbelow]
    exact denotes_plain h.2.2 h.1.1 h.1.2
  | unit h =>
    rw [unitsOf, if_pos h]
    exact denotes_unitEscape h
  | pair low high =>
    rw [unitsOf, if_neg low]
    exact (denotes_unitEscape (by omega)).append (denotes_unitEscape (by omega))

theorem denotes_literalSign (s : Sign) : Denotes d (literalSign s) (unitsOf s.point) := by
  cases s with
  | char c => exact (written_literalChar c).denotes
  | half n =>
    have hlt : firstHalf + n.val < 0x10000 := by
      have := n.isLt
      simp only [firstHalf]
      omega
    rw [Sign.point, unitsOf, if_pos hlt]
    exact denotes_unitEscape hlt

/-- **What is written denotes the 16-bit units of the text**, in both languages. -/
theorem decode_literal (d : Dialect) (l : List Sign) :
    decode d (l.flatMap literalSign) = some ((l.map Sign.point).flatMap unitsOf) := by
  rw [List.flatMap_map]
  exact (Denotes.flatMap denotes_literalSign l).decode_eq

/-! ## The characters of generated literals -/

theorem mem_hex {c : Char} : ∀ {width n : Nat}, c ∈ hex width n → ∃ m < 16, c = hexDigit m
  | 0, _, h => by cases h
  | width + 1, n, h => by
    rw [hex, List.mem_append] at h
    rcases h with h | h
    · exact mem_hex h
    · exact ⟨n % 16, Nat.mod_lt n (by decide), List.mem_singleton.1 h⟩

theorem isShown_of_mem_unitEscape {n : Nat} {c : Char} (h : c ∈ unitEscape n) : IsShown c := by
  have hdigit : ∀ m < 16, IsShown (hexDigit m) := by decide
  rcases List.mem_cons.1 h with rfl | h
  · decide
  · rcases List.mem_cons.1 h with rfl | h
    · decide
    · obtain ⟨m, hm, rfl⟩ := mem_hex h
      exact hdigit m hm

theorem Written.isShown {c : Char} {l : List Char} (h : Written c l) : ∀ d ∈ l, IsShown d := by
  cases h with
  | short shown => exact List.forall_mem_cons.2 ⟨by decide, List.forall_mem_singleton.2 shown⟩
  | plain h => exact List.forall_mem_singleton.2 h.1
  | unit => exact fun d hd => isShown_of_mem_unitEscape hd
  | pair => exact fun d hd => (List.mem_append.1 hd).elim isShown_of_mem_unitEscape isShown_of_mem_unitEscape

theorem isShown_of_mem_literal {l : List Sign} {c : Char} (h : c ∈ literal l) : IsShown c := by
  rw [literal, List.cons_append, List.mem_cons, List.mem_append, List.mem_singleton] at h
  rcases h with rfl | h | rfl
  · decide
  · obtain ⟨s, -, hc⟩ := List.mem_flatMap.1 h
    cases s with
    | char d => exact (written_literalChar d).isShown c hc
    | half n => exact isShown_of_mem_unitEscape hc
  · decide

theorem at_not_mem_unitEscape (n : Nat) : '@' ∉ unitEscape n := by
  have hdigit : ∀ m < 16, hexDigit m ≠ '@' := by decide
  intro h
  rcases List.mem_cons.1 h with heq | h
  · cases heq
  · rcases List.mem_cons.1 h with heq | h
    · cases heq
    · obtain ⟨m, hm, heq⟩ := mem_hex h
      exact hdigit m hm heq.symm

theorem Written.at_not_mem {c : Char} {l : List Char} (h : Written c l) (hc : c ≠ '@') : '@' ∉ l := by
  cases h with
  | short _ meaning =>
    -- there is no such escape
    rintro hmem
    rcases List.mem_cons.1 hmem with heq | hmem
    · cases heq
    · rw [← List.mem_singleton.1 hmem] at meaning
      cases meaning
  | plain => exact fun hmem => hc (List.mem_singleton.1 hmem).symm
  | unit => exact at_not_mem_unitEscape _
  | pair => exact fun hmem => (List.mem_append.1 hmem).elim (at_not_mem_unitEscape _) (at_not_mem_unitEscape _)

theorem at_not_mem_literal {l : List Sign} (h : Sign.char '@' ∉ l) : '@' ∉ literal l := by
  rw [literal, List.cons_append, List.mem_cons, List.mem_append, List.mem_singleton]
  rintro (heq | hmem | heq)
  · cases heq
  · obtain ⟨s, hs, hmem⟩ := List.mem_flatMap.1 hmem
    cases s with
    | char c => exact (written_literalChar c).at_not_mem (fun hc => h (hc ▸ hs)) hmem
    | half n => exact at_not_mem_unitEscape _ hmem
  · cases heq

/-! ## Reading generated literals -/

def Inside (l : List Char) : Prop := ∀ a, run .escaped (.quoted '"' a) l = ([], .quoted '"' (a ++ l))

theorem Inside.nil : Inside [] := fun a => by simp [run]

theorem Inside.append {a b : List Char} (ha : Inside a) (hb : Inside b) : Inside (a ++ b) := fun c => by
  rw [run_append, ha, hb]
  simp

theorem Inside.flatMap {α : Type} {f : α → List Char} (h : ∀ a, Inside (f a)) : ∀ l : List α, Inside (l.flatMap f)
  | [] => Inside.nil
  | a :: l => (h a).append (Inside.flatMap h l)

theorem inside_plain {c : Char} (hquote : c ≠ '"') (hslash : c ≠ '\\') : Inside [c] := fun a => by
  simp [run, Pending.next, hquote, hslash]

theorem inside_escape (c : Char) : Inside ['\\', c] := fun a => by
  simp [run, Pending.next]

theorem inside_of_forall {l : List Char} (h : ∀ c ∈ l, c ≠ '"' ∧ c ≠ '\\') : Inside l := by
  induction l with
  | nil => exact Inside.nil
  | cons c l ih =>
    obtain ⟨hc, hl⟩ := List.forall_mem_cons.1 h
    exact (inside_plain hc.1 hc.2).append (ih hl)

theorem inside_unitEscape (n : Nat) : Inside (unitEscape n) := by
  have hdigit : ∀ m < 16, hexDigit m ≠ '"' ∧ hexDigit m ≠ '\\' := by decide
  refine (inside_escape 'u').append (inside_of_forall (fun c hc => ?_))
  obtain ⟨m, hm, rfl⟩ := @mem_hex c 4 n hc
  exact hdigit m hm

theorem Written.inside {c : Char} {l : List Char} (h : Written c l) : Inside l := by
  cases h with
  | short => exact inside_escape _
  | plain h => exact inside_plain h.2.1 h.2.2
  | unit => exact inside_unitEscape _
  | pair => exact (inside_unitEscape _).append (inside_unitEscape _)

theorem inside_literalSign (s : Sign) : Inside (literalSign s) := by
  cases s with
  | char c => exact (written_literalChar c).inside
  | half n => exact inside_unitEscape _

theorem Inside.closes {l : List Char} (h : Inside l) : Closes .escaped ('"' :: l ++ ['"']) [.quoted '"' l] := by
  have hbegin : run .escaped .none ['"'] = ([], .quoted '"' []) := rfl
  refine Closes.of_run ?_
  rw [← List.singleton_append, List.append_assoc, run_append, hbegin, run_append, h]
  simp [run, Pending.next]

/-- **A literal is read as one text between quotes.** -/
theorem closes_literal (l : List Sign) : Closes .escaped (literal l) [.quoted '"' (l.flatMap literalSign)] :=
  (Inside.flatMap inside_literalSign l).closes

/-! ## Plain texts between quotes -/

theorem inside_of_isPlain {l : List Char} (h : ∀ c ∈ l, IsPlain c) : Inside l :=
  inside_of_forall (fun c hc => (h c hc).2)

theorem decode_of_isPlain {l : List Char} (h : ∀ c ∈ l, IsPlain c) : decode d l = some (l.map Char.toNat) := by
  have hdenotes : ∀ {l : List Char}, (∀ c ∈ l, IsPlain c) → Denotes d l (l.map Char.toNat) := by
    intro l
    induction l with
    | nil => exact fun _ => Denotes.nil
    | cons c l ih =>
      intro h
      obtain ⟨hc, hl⟩ := List.forall_mem_cons.1 h
      exact (denotes_plain hc.2.2 hc.1.1 hc.1.2).append (ih hl)
  exact (hdenotes h).decode_eq

theorem isPlain_of_part {c : Char} (h : Naming.isIdentifierPart c = true) : IsPlain c := by
  have hall : ∀ n < 128, Naming.isIdentifierPart (Char.ofNat n) = true → IsPlain (Char.ofNat n) := by decide
  exact Naming.forall_ascii (P := fun c => Naming.isIdentifierPart c = true → IsPlain c) hall
    (Naming.toNat_lt_of_part h) h

end Source
end Scaffold
