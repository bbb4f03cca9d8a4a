import CallWire.Fault

/-!
# Reading from a buffer

A reader that needs more bytes than are left reports how many it needs, how many are left and where.
A cursor may stand beyond the end of its buffer; asking for no bytes there is a breach.
-/

namespace CallWire

structure Cursor where
  pos : Nat
  ahead : Bytes
  beyond : Bool
  deriving DecidableEq

def Cursor.openAt (buf : Bytes) (offset : Nat) : Cursor where
  pos := offset
  ahead := buf.drop offset
  beyond := !Bytes.covers offset buf

abbrev Reader := StateT Cursor Outcome

namespace Reader

def fail {α : Type} (e : FrameError) : Reader α := fun _ => refuse e

def position : Reader Nat := fun c => .ok (c.pos, c)

def atEnd : Reader Bool := fun c => .ok (c.ahead.isEmpty, c)

def take (n : Nat) : Reader Bytes := fun c =>
  if Bytes.covers n c.ahead then
    if c.beyond then .error (.breach .outOfRange)
    else .ok (c.ahead.take n, { c with pos := c.pos + n, ahead := c.ahead.drop n })
  else refuse (.shortRead n c.ahead.length c.pos)

def number (w : Nat) : Reader Nat := Bytes.ofBigEndian <$> take w

def byte : Reader UInt8 := UInt8.ofNat <$> number 1

def word16 : Reader UInt16 := UInt16.ofNat <$> number 2

def word32 : Reader UInt32 := UInt32.ofNat <$> number 4

def tracing : Reader Tracing := Tracing.ofBytes <$> take Tracing.width

/-- Runs a reader at `offset` in `buf`; returns the offset behind what was read, and the value. -/
def runAt {α : Type} (r : Reader α) (buf : Bytes) (offset : Nat) : Outcome (Nat × α) :=
  match r (Cursor.openAt buf offset) with
  | .ok (a, c) => .ok (c.pos, a)
  | .error e => .error e

end Reader

end CallWire
