/-!
# Text.Utf8 — characters as bytes

Reading bytes never fails: every byte that begins no character, and every beginning of a character that is not carried
on, is read as the replacement character.
-/
namespace Scaffold
namespace Text

def bytes (l : List Char) : List Nat := (l.flatMap String.utf8EncodeChar).map UInt8.toNat

def withoutMark : List Char → List Char
  | '\ufeff' :: rest => rest
  | l => l

/-- What a byte begins: its share of the code point, how many bytes follow, and the range of the first of them. -/
structure Lead where
  share : Nat
  count : Nat
  least : Nat := 0x80
  most : Nat := 0xbf

/-- **The lead bytes.**  The ranges of what follows leave out what has a shorter form, the halves of pairs, and what is
beyond the last code point. -/
def lead? (b : Nat) : Option Lead :=
  if 0xc2 ≤ b ∧ b ≤ 0xdf then some { share := b - 0xc0, count := 1 }
  else if b = 0xe0 then some { share := 0, count := 2, least := 0xa0 }
  else if b = 0xed then some { share := 0xd, count := 2, most := 0x9f }
  else if 0xe1 ≤ b ∧ b ≤ 0xef then some { share := b - 0xe0, count := 2 }
  else if b = 0xf0 then some { share := 0, count := 3, least := 0x90 }
  else if 0xf1 ≤ b ∧ b ≤ 0xf3 then some { share := b - 0xf0, count := 3 }
  else if b = 0xf4 then some { share := 4, count := 3, most := 0x8f }
  else none

/-- The bytes that carry a character on, as far as they do, the first of them in a range of its own. -/
def continuation : Nat → Nat → Nat → List Nat → List Nat
  | 0, _, _, _ => []
  | _, _, _, [] => []
  | n + 1, least, most, b :: rest =>
    if least ≤ b ∧ b ≤ most then b :: continuation n 0x80 0xbf rest else []

def codePoint (share : Nat) (rest : List Nat) : Nat := rest.foldl (fun n b => n * 0x40 + (b - 0x80)) share

def replacement : Char := '\ufffd'

def ofBytes : List Nat → List Char
  | [] => []
  | b :: rest =>
    if b < 0x80 then Char.ofNat b :: ofBytes rest
    else
      match lead? b with
      | none => replacement :: ofBytes rest
      | some lead =>
        let more := continuation lead.count lead.least lead.most rest
        let c := if more.length = lead.count then Char.ofNat (codePoint lead.share more) else replacement
        c :: ofBytes (rest.drop more.length)
termination_by l => l.length

end Text
end Scaffold
