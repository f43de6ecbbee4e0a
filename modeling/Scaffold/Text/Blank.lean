/-!
# Text.Blank — white space and line ends

White space is the Unicode property together with the four information separators U+001C–U+001F.  `trim` takes it off
both ends, `trimRight` off the end; `lines` cuts a text at every line end, the pair carriage return – line feed
counting once, and gives no empty line after a final one.
-/
namespace Scaffold
namespace Text

def isBlank (c : Char) : Bool :=
  let n := c.toNat
  (decide (9 ≤ n) && decide (n ≤ 13)) || (decide (28 ≤ n) && decide (n ≤ 32)) || n == 0x85 || n == 0xa0 ||
    n == 0x1680 || (decide (0x2000 ≤ n) && decide (n ≤ 0x200a)) || n == 0x2028 || n == 0x2029 || n == 0x202f ||
    n == 0x205f || n == 0x3000

/-- **A line end**, a carriage return before a line feed aside. -/
def isBreak (c : Char) : Bool :=
  let n := c.toNat
  (decide (10 ≤ n) && decide (n ≤ 13)) || (decide (28 ≤ n) && decide (n ≤ 30)) || n == 0x85 || n == 0x2028 ||
    n == 0x2029

def trimLeft (l : List Char) : List Char := l.dropWhile isBlank

def trimRight (l : List Char) : List Char := (l.reverse.dropWhile isBlank).reverse

def trim (l : List Char) : List Char := trimRight (trimLeft l)

section Parts

variable {α : Type}

/-- Puts an element in front of the first part, opening one if there is none. -/
def consPart (c : α) : List (List α) → List (List α)
  | [] => [[c]]
  | l :: ls => (c :: l) :: ls

/-- The parts put together again, a separator between each two. -/
def join (sep : List α) : List (List α) → List α
  | [] => []
  | [l] => l
  | l :: ls => l ++ sep ++ join sep ls

variable [DecidableEq α]

/-- **The parts between separators**: one more than there are separators. -/
def split (sep : α) : List α → List (List α)
  | [] => [[]]
  | c :: rest => if c = sep then [] :: split sep rest else consPart c (split sep rest)

def words (sep : α) (l : List α) : List (List α) := (split sep l).filter (fun w => !w.isEmpty)

def replace (old new : α) (l : List α) : List α := l.map (fun c => if c = old then new else c)

theorem split_ne_nil (sep : α) : ∀ (l : List α), split sep l ≠ []
  | [] => by simp [split]
  | c :: rest => by
    unfold split
    split
    · simp
    · cases h : split sep rest <;> simp [consPart]

/-- **Putting the parts together again gives the text back.** -/
theorem join_split (sep : α) : ∀ (l : List α), join [sep] (split sep l) = l
  | [] => rfl
  | c :: rest => by
    have ih := join_split sep rest
    cases h : split sep rest with
    | nil => exact absurd h (split_ne_nil sep rest)
    | cons p ps =>
      rw [h] at ih
      by_cases hc : c = sep
      · simp [split, hc, h, join, ih]
      · cases ps <;> simp_all [split, consPart, join]

theorem not_mem_of_mem_split (sep : α) : ∀ (l p : List α), p ∈ split sep l → sep ∉ p
  | [], p, h => by simp_all [split]
  | c :: rest, p, h => by
    have ih := not_mem_of_mem_split sep rest
    by_cases hc : c = sep
    · simp only [split, hc, if_true, List.mem_cons] at h
      rcases h with rfl | h
      · simp
      · exact ih p h
    · cases hs : split sep rest with
      | nil => exact absurd hs (split_ne_nil sep rest)
      | cons q qs =>
        simp only [split, hc, if_false, hs, consPart, List.mem_cons] at h
        rcases h with rfl | h
        · simp [Ne.symm hc, ih q (by simp [hs])]
        · exact ih p (by simp [hs, h])

end Parts

/-- **The lines of a text**, without their ends. -/
def lines : List Char → List (List Char)
  | [] => []
  | '\r' :: '\n' :: rest => [] :: lines rest
  | c :: rest => if isBreak c then [] :: lines rest else consPart c (lines rest)

/-- **A final line feed taken off**, if there is one. -/
def dropFinalNewline (l : List Char) : List Char :=
  match l.reverse with
  | '\n' :: r => r.reverse
  | _ => l

end Text
end Scaffold
