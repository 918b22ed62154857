import TraceText.Text.Case
import TraceText.Text.PrintableTable

/-!
# Quoted text

A text between double quotes, in which quotes, backslashes and characters without a visible form of
their own are escaped.

## Main definitions

* `Text.escapeChar` — a character as it stands between quotes
* `Text.quoted` — a text between quotes
-/

namespace TraceText.Text

/-- A number in lower-case hexadecimal digits. -/
def hexDigits (n : Nat) : Text := Nat.toDigits 16 n

/-- Whether a character is shown as it is. -/
def isShown (c : Char) : Bool :=
  if c.toNat < 127 then 32 ≤ c.toNat else
    !inRanges PrintableTable.hidden c && !inRanges PrintableTable.extending c

/-- A character as it stands between quotes. -/
def escapeChar (c : Char) : Text :=
  if c = '"' ∨ c = '\\' then ['\\', c]
  else if c = '\n' then ['\\', 'n']
  else if c = '\r' then ['\\', 'r']
  else if c = '\t' then ['\\', 't']
  else if c = '\x00' then ['\\', '0']
  else if isShown c then [c]
  else "\\u\x7b" ++ hexDigits c.toNat ++ "\x7d"

/-- A text between double quotes. -/
def quoted (t : Text) : Text := '"' :: t.flatMap escapeChar ++ ['"']

end TraceText.Text
