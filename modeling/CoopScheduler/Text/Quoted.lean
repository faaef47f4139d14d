import CoopScheduler.Text.Visible

/-!
# Quoted text

Names are shown to people between double quotes. A character that would end the quotes or
could not be seen there is written as an escape: the backslash, the double quote and the
controls with names of their own by one letter, every other one that is not visible by its
number in hexadecimal digits, as in `\u{7f}`.
-/

namespace CoopScheduler

namespace Text.Quoted

/-- The escape of a character by its number. -/
def numeric (c : Char) : List Char :=
  '\\' :: 'u' :: '\x7b' :: Nat.toDigits 16 c.toNat ++ ['\x7d']

/-- How a character is written between quotes. -/
def encodeChar (c : Char) : List Char :=
  if c = '\x00' then ['\\', '0']
  else if c = '\t' then ['\\', 't']
  else if c = '\n' then ['\\', 'n']
  else if c = '\r' then ['\\', 'r']
  else if c = '\\' ∨ c = '"' then ['\\', c]
  else if Text.isVisible c then [c]
  else numeric c

/-- A visible character that does not end the quotes is written as itself. -/
theorem encodeChar_of_isVisible {c : Char} (h : isVisible c = true) (hslash : c ≠ '\\')
    (hquote : c ≠ '"') : encodeChar c = [c] := by
  have hcontrol {d : Char} (hd : isVisible d = false) : c ≠ d := fun hc => by simp_all
  rw [encodeChar, if_neg (hcontrol (by decide +kernel)), if_neg (hcontrol (by decide +kernel)),
    if_neg (hcontrol (by decide +kernel)), if_neg (hcontrol (by decide +kernel)),
    if_neg (not_or.2 ⟨hslash, hquote⟩), if_pos h]

/-- The text between double quotes, with its escapes. -/
def encode (text : String) : String :=
  String.ofList ('"' :: text.toList.flatMap encodeChar ++ ['"'])

end Text.Quoted

end CoopScheduler
