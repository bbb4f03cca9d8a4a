import CallWire.Fault

/-!
# Writing into a buffer

A value is written as a list of segments, each either bytes to put down or a fault at which
writing stops. A `Pen` puts segments down one after another into a buffer of fixed size, over what
stood there before. When writing stops, what was put down before stays in the buffer.

* `putZeros_eq`: a run of zeros is written like any other bytes;
* `write_buffer_length`, `length_writeAt`: writing never changes the size of the buffer.
-/

namespace CallWire

/-- One step of writing a value. -/
inductive Segment where
  | put (bytes : Bytes)
  | zeros (count : Nat)
  | stop (fault : Fault FrameError)
  deriving DecidableEq

namespace Segment

def number (w n : Nat) : Segment := put (Bytes.bigEndian w n)

def byte (b : UInt8) : Segment := put [b]

def word16 (n : UInt16) : Segment := number 2 n.toNat

def word32 (n : UInt32) : Segment := number 4 n.toNat

def tracing (t : Tracing) : Segment := put t.bytes

def refuse (e : FrameError) : Segment := stop (.refused e)

end Segment

structure Pen where
  pos : Nat
  /-- The bytes before the position, last one first. -/
  behind : Bytes
  /-- The bytes from the position to the end of the buffer. -/
  ahead : Bytes
  /-- Whether the position lies beyond the end of the buffer. -/
  beyond : Bool

namespace Pen

def openAt (buf : Bytes) (offset : Nat) : Pen where
  pos := offset
  behind := (buf.take offset).reverse
  ahead := buf.drop offset
  beyond := !Bytes.covers offset buf

/-- The whole buffer as it stands. -/
def buffer (p : Pen) : Bytes := p.behind.reverseAux p.ahead

/-- Puts `bs` down and moves behind them. -/
def put (bs : Bytes) (p : Pen) : Outcome Pen :=
  if Bytes.covers bs.length p.ahead then
    if p.beyond then .error (.breach .outOfRange)
    else .ok { p with
      pos := p.pos + bs.length
      behind := bs.reverseAux p.behind
      ahead := p.ahead.drop bs.length }
  else CallWire.refuse (.shortWrite bs.length p.ahead.length p.pos)

/-- Puts `n` zero bytes down and moves behind them. They are made only if there is room for them. -/
def putZeros (n : Nat) (p : Pen) : Outcome Pen :=
  if Bytes.covers n p.ahead then p.put (Bytes.zeros n)
  else CallWire.refuse (.shortWrite n p.ahead.length p.pos)

/-- Puts segments down in order, up to the first that cannot be. -/
def write : List Segment → Pen → Pen × Outcome Unit
  | [], p => (p, .ok ())
  | .stop fault :: _, p => (p, .error fault)
  | .put bs :: rest, p =>
      match p.put bs with
      | .ok p => write rest p
      | .error fault => (p, .error fault)
  | .zeros n :: rest, p =>
      match p.putZeros n with
      | .ok p => write rest p
      | .error fault => (p, .error fault)

theorem buffer_eq (p : Pen) : p.buffer = p.behind.reverse ++ p.ahead := by
  simp [buffer, List.reverseAux_eq]

theorem buffer_openAt (buf : Bytes) (offset : Nat) : (Pen.openAt buf offset).buffer = buf := by
  simp [buffer_eq, Pen.openAt]

theorem putZeros_eq (n : Nat) (p : Pen) : p.putZeros n = p.put (Bytes.zeros n) := by
  unfold putZeros
  split
  · rfl
  · rename_i full
    unfold put
    rw [Bytes.length_zeros, if_neg full]

theorem put_buffer_length {bs : Bytes} {p q : Pen} (h : p.put bs = .ok q) :
    q.buffer.length = p.buffer.length := by
  unfold put at h
  split at h
  · rename_i room
    rw [Bytes.covers_iff] at room
    split at h
    · cases h
    · cases h
      simp [buffer_eq, List.reverseAux_eq]
      omega
  · cases h

theorem write_buffer_length (segments : List Segment) (p : Pen) :
    (write segments p).1.buffer.length = p.buffer.length := by
  induction segments generalizing p with
  | nil => rfl
  | cons s rest ih =>
    cases s with
    | stop fault => rfl
    | put bs =>
      simp only [write]
      split
      · rename_i q h
        rw [ih q, put_buffer_length h]
      · rfl
    | zeros n =>
      simp only [write, putZeros_eq]
      split
      · rename_i q h
        rw [ih q, put_buffer_length h]
      · rfl

end Pen

/-- Writes segments at `offset` in `buf`. Returns the buffer afterwards and, if every segment could
be put down, the offset behind them. -/
def writeAt (segments : List Segment) (buf : Bytes) (offset : Nat) : Bytes × Outcome Nat :=
  match Pen.write segments (Pen.openAt buf offset) with
  | (p, .ok ()) => (p.buffer, .ok p.pos)
  | (p, .error fault) => (p.buffer, .error fault)

/-- The bytes of segments, written into a buffer of `n` bytes that is made for them. -/
def assemble (segments : List Segment) (n : Nat) : Outcome Bytes :=
  match writeAt segments (Bytes.zeros n) 0 with
  | (bytes, .ok _) => .ok bytes
  | (_, .error fault) => .error fault

theorem length_writeAt (segments : List Segment) (buf : Bytes) (offset : Nat) :
    (writeAt segments buf offset).1.length = buf.length := by
  have h := Pen.write_buffer_length segments (Pen.openAt buf offset)
  rw [Pen.buffer_openAt] at h
  unfold writeAt
  split <;> simp_all

end CallWire
