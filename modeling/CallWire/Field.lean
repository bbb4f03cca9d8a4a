import CallWire.Cursor
import CallWire.Segment
import CallWire.Text

/-!
# Counted fields

Texts, header maps and argument chunks are preceded by a count, in one byte or in two. The width of
the count bounds what the field can hold.
-/

namespace CallWire

/-- How many bytes the count before a field takes. -/
inductive Width where
  | narrow
  | wide
  deriving DecidableEq, Repr

namespace Width

def bytes : Width → Nat
  | narrow => 1
  | wide => 2

def limit : Width → Nat
  | narrow => 255
  | wide => 65535

theorem limit_lt (w : Width) : w.limit < Bytes.capacity w.bytes := by
  cases w <;> decide

theorem bytes_pos (w : Width) : 0 < w.bytes := by
  cases w <;> decide

end Width

def Reader.count (w : Width) : Reader Nat := number w.bytes

def Segment.count (w : Width) (n : Nat) : Segment := number w.bytes n

namespace TextField

def length (w : Width) (s : String) : Except FrameError Nat :=
  if w.limit < Text.size s then .error (.stringTooLong (Text.size s) w.limit)
  else .ok (w.bytes + Text.size s)

/-- The field that holds `s`. A text that is too long for its count is refused before the count is
written. -/
def segments (w : Width) (s : String) : List Segment :=
  if w.limit < Text.size s then [.refuse (.stringTooLong (Text.size s) w.limit)]
  else [.count w (Text.size s), .put (Text.encode s)]

/-- Reads a field. Bytes that are no text are refused with the offset of the first of them. -/
def read (w : Width) : Reader String := do
  let n ← Reader.count w
  let start ← Reader.position
  let bs ← Reader.take n
  match Text.decode? bs with
  | some s => return s
  | none => Reader.fail (.invalidUtf8 start)

end TextField

end CallWire
