/-!
Text as bytes. Bytes that are no text at all can still be shown, with a replacement character in
place of what has no meaning.
-/

set_option autoImplicit false

namespace RunPlan.Text

def utf8 (s : List Char) : List UInt8 := s.flatMap String.utf8EncodeChar

def bytesOf (s : List Char) : List UInt8 := (String.ofList s).toUTF8.toList

def ofBytes? (bs : List UInt8) : Option String := String.fromUTF8? ⟨bs.toArray⟩

/-- The form of a character of several bytes by its first one: how many bytes follow, and between
which bounds the second one lies. -/
def leadForm? (b : UInt8) : Option (Nat × UInt8 × UInt8) :=
  if 0xC2 ≤ b && b ≤ 0xDF then some (1, 0x80, 0xBF)
  else if b = 0xE0 then some (2, 0xA0, 0xBF)
  else if b = 0xED then some (2, 0x80, 0x9F)
  else if 0xE1 ≤ b && b ≤ 0xEF then some (2, 0x80, 0xBF)
  else if b = 0xF0 then some (3, 0x90, 0xBF)
  else if 0xF1 ≤ b && b ≤ 0xF3 then some (3, 0x80, 0xBF)
  else if b = 0xF4 then some (3, 0x80, 0x8F)
  else none

def continuing (count : Nat) (lo hi : UInt8) : List UInt8 → Nat
  | [] => 0
  | b :: bs =>
    match count with
    | 0 => 0
    | n + 1 => if lo ≤ b && b ≤ hi then 1 + continuing n 0x80 0xBF bs else 0

def replacement : Char := '\uFFFD'

/-- Shows bytes. The longest start of a character that is cut short counts as one thing. -/
def shownFrom : Nat → List UInt8 → List Char
  | 0, _ => []
  | _, [] => []
  | fuel + 1, b :: bs =>
    if b < 0x80 then Char.ofNat b.toNat :: shownFrom fuel bs
    else match leadForm? b with
      | none => replacement :: shownFrom fuel bs
      | some (count, lo, hi) =>
        let n := continuing count lo hi bs
        if n < count then replacement :: shownFrom fuel (bs.drop n)
        else
          match ofBytes? (b :: bs.take n) with
          | some s => s.toList ++ shownFrom fuel (bs.drop n)
          | none => replacement :: shownFrom fuel (bs.drop n)

def shown (bs : List UInt8) : String := String.ofList (shownFrom bs.length bs)

end RunPlan.Text
