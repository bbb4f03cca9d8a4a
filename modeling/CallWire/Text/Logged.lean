import CallWire.Text.Printable

/-!
# Texts in logs

A text that is part of a line in a log stands between quotation marks, and everything in it that
could be mistaken or that cannot be seen is escaped.
-/

namespace CallWire.Text

/-- How a character is written in a log. -/
def escapeForLog (c : Char) : List Char :=
  if c = '"' ∨ c = '\\' then ['\\', c]
  else if c = '\n' then ['\\', 'n']
  else if c = '\r' then ['\\', 'r']
  else if c = '\t' then ['\\', 't']
  else if c = '\x00' then ['\\', '0']
  else if isPrintable c then [c]
  else ['\\', 'u', '\x7b'] ++ Nat.toDigits 16 c.toNat ++ ['\x7d']

/-- A text as it is written in a log. -/
def quoteForLog (s : String) : String :=
  String.ofList (['"'] ++ s.toList.flatMap escapeForLog ++ ['"'])

end CallWire.Text
