import CallWire.Bytes.Hex

/-!
# Quoted texts

A text in JSON stands between quotation marks. Written, it escapes the quotation mark, the
backslash and control characters, and nothing else. Read, it may escape any character, also by the
numbers of its UTF-16 units; a half of a surrogate pair on its own is well formed but denotes no
text.
-/

namespace CallWire.Json

/-- How one character is written within a quoted text. -/
def escape (c : Char) : List Char :=
  if c = '"' then ['\\', '"']
  else if c = '\\' then ['\\', '\\']
  else if c = '\x08' then ['\\', 'b']
  else if c = '\x0c' then ['\\', 'f']
  else if c = '\n' then ['\\', 'n']
  else if c = '\r' then ['\\', 'r']
  else if c = '\t' then ['\\', 't']
  else if c.toNat < 0x20 then
    ['\\', 'u', '0', '0', Bytes.hexDigit (c.toNat / 16), Bytes.hexDigit (c.toNat % 16)]
  else [c]

def quote (s : String) : String := String.ofList (['"'] ++ s.toList.flatMap escape ++ ['"'])

/-- A text that has been read, or none if it holds half of a surrogate pair. -/
abbrev Literal := Option String

/-- The value of a hexadecimal digit of either case. -/
private def digitValue? (c : Char) : Option Nat :=
  if '0' ≤ c ∧ c ≤ '9' then some (c.toNat - 48)
  else if 'a' ≤ c ∧ c ≤ 'f' then some (c.toNat - 87)
  else if 'A' ≤ c ∧ c ≤ 'F' then some (c.toNat - 55)
  else none

private def unit? (a b c d : Char) : Option Nat := do
  let a ← digitValue? a
  let b ← digitValue? b
  let c ← digitValue? c
  let d ← digitValue? d
  some (((a * 16 + b) * 16 + c) * 16 + d)

/-- One UTF-16 unit or one whole character of a quoted text. -/
private inductive Item where
  | char (c : Char)
  | unit (n : Nat)

/-- Puts halves of surrogate pairs together. -/
private def join : List Item → Option (List Char)
  | [] => some []
  | .char c :: rest => (join rest).map (c :: ·)
  | .unit n :: .unit m :: rest =>
      if 0xd800 ≤ n ∧ n < 0xdc00 then
        if 0xdc00 ≤ m ∧ m < 0xe000 then
          (join rest).map (Char.ofNat (0x10000 + (n - 0xd800) * 0x400 + (m - 0xdc00)) :: ·)
        else none
      else if 0xdc00 ≤ n ∧ n < 0xe000 then none
      else (join (.unit m :: rest)).map (Char.ofNat n :: ·)
  | .unit n :: rest =>
      if 0xd800 ≤ n ∧ n < 0xe000 then none else (join rest).map (Char.ofNat n :: ·)

/-- The character that a backslash and a letter stand for. -/
private def short? : Char → Option Char
  | '"' => some '"'
  | '\\' => some '\\'
  | '/' => some '/'
  | 'b' => some '\x08'
  | 'f' => some '\x0c'
  | 'n' => some '\n'
  | 'r' => some '\r'
  | 't' => some '\t'
  | _ => none

/-- Reads up to the closing mark. The items read so far come last one first. -/
private def itemsUpToMark (read : List Item) : List Char → Option (List Item × List Char)
  | [] => none
  | '"' :: rest => some (read.reverse, rest)
  | '\\' :: 'u' :: a :: b :: c :: d :: rest =>
      match unit? a b c d with
      | some n => itemsUpToMark (.unit n :: read) rest
      | none => none
  | '\\' :: c :: rest =>
      match short? c with
      | some c => itemsUpToMark (.char c :: read) rest
      | none => none
  | c :: rest => if c.toNat < 0x20 ∨ c = '\\' then none else itemsUpToMark (.char c :: read) rest

/-- Reads a quoted text behind its opening mark; returns it and what follows the closing mark. -/
def unquote (cs : List Char) : Option (Literal × List Char) :=
  (itemsUpToMark [] cs).map fun (read, rest) => ((join read).map String.ofList, rest)

end CallWire.Json
