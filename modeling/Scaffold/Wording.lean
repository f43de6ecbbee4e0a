import Scaffold.Text.Blank
import Scaffold.Text.Case
import Scaffold.Text.Sign
/-!
# Wording — texts that may hold halves of pairs

Names, labels and values that come in a document are wordings.  A wording without halves is a text (`text?`), and every
text is a wording; where only a text can stand, a wording is `shown`.
-/
namespace Scaffold

structure Wording where
  signs : List Text.Sign
deriving DecidableEq, Repr

namespace Wording

open Text

def ofText (s : String) : Wording := ⟨s.toList.map .char⟩

instance : Coe String Wording := ⟨ofText⟩

def ofPoints (l : List Nat) : Wording := ⟨l.map Sign.ofPoint⟩

def isEmpty (w : Wording) : Bool := w.signs.isEmpty

def length (w : Wording) : Nat := w.signs.length

/-- **The text that the wording is**, unless it holds half of a pair. -/
def text? (w : Wording) : Option String := (w.signs.mapM Sign.char?).map String.ofList

/-- **The text as which the wording is shown.** -/
def shown (w : Wording) : String := String.ofList (w.signs.map Sign.shown)

instance : ToString Wording := ⟨shown⟩

def concat (l : List Wording) : Wording := ⟨l.flatMap signs⟩

def isWhole (w : Wording) : Bool := !w.signs.any Sign.isHalf

def isBlankSign : Sign → Bool
  | .char c => isBlank c
  | .half _ => false

def trimmed (w : Wording) : Wording := ⟨((w.signs.dropWhile isBlankSign).reverse.dropWhile isBlankSign).reverse⟩

/-- Lower case from the middle of a wording; halves stay. -/
def lowerSigns (before : List Char) : List Sign → List Sign
  | [] => []
  | .char 'Σ' :: rest => (lowerAt before 'Σ' (rest.map Sign.shown)).map .char ++ lowerSigns ('Σ' :: before) rest
  | .char c :: rest => (lowerChar c).map .char ++ lowerSigns (c :: before) rest
  | s :: rest => s :: lowerSigns (s.shown :: before) rest

def lower (w : Wording) : Wording := ⟨lowerSigns [] w.signs⟩

def capitalized : List Sign → List Sign
  | .char c :: rest => (upperChar c).map .char ++ rest
  | l => l

@[simp] theorem shown_ofText (s : String) : (ofText s).shown = s := by
  simp [shown, ofText, Function.comp_def, Sign.shown]

@[simp] theorem isWhole_ofText (s : String) : (ofText s).isWhole = true := by
  simp [isWhole, ofText, Sign.isHalf]

theorem mapM_char?_eq_some_iff : ∀ (signs : List Sign) {l : List Char},
    signs.mapM Sign.char? = some l ↔ signs = l.map Sign.char
  | [], l => by cases l <;> simp
  | .half n :: signs, l => by cases l <;> simp [Sign.char?]
  | .char c :: signs, l => by
    simp only [List.mapM_cons, Sign.char?, Option.bind_eq_bind, Option.bind_some, Option.bind_eq_some_iff,
      Option.pure_def, Option.some.injEq, mapM_char?_eq_some_iff signs]
    cases l with
    | nil => simp
    | cons d l => simpa using and_comm

/-- **A wording is a text exactly if it is the wording of that text.** -/
theorem text?_eq_some_iff {w : Wording} {s : String} : w.text? = some s ↔ w = ofText s := by
  obtain ⟨signs⟩ := w
  simp only [text?, ofText, Option.map_eq_some_iff, mapM_char?_eq_some_iff, mk.injEq]
  constructor
  · rintro ⟨l, rfl, rfl⟩
    rw [String.toList_ofList]
  · rintro rfl
    exact ⟨s.toList, rfl, String.ofList_toList⟩

@[simp] theorem text?_ofText (s : String) : (ofText s).text? = some s := text?_eq_some_iff.2 rfl

end Wording
end Scaffold
