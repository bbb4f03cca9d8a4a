import CallWire.ConnectionPools

/-!
# Reading frames

A frame is read within the size that its header declares, so that call bodies end where the frame
ends. Errors in the body of a call frame are reported with the frame's id.
-/

namespace CallWire

structure FrameHeader where
  size : UInt16
  type : FrameType
  id : UInt32
  deriving DecidableEq

namespace FrameHeader

/-- The size field, which counts the header as well. -/
def readSize : Reader UInt16 := do
  let size ← Reader.word16
  if size.toNat < FrameLayout.overhead then Reader.fail (.invalidFrameSize size)
  else return size

def typeOf (n : UInt8) : Outcome FrameType :=
  match FrameType.ofNumber? n with
  | some type => .ok type
  | none => refuse (.invalidFrameType n)

/-- Reads the header at `offset`, all of which must be there, and none of the body. -/
def peek (buf : Bytes) (offset : Nat) : Outcome FrameHeader := do
  let _ ← (Reader.take FrameLayout.overhead).runAt buf offset
  let (_, size) ← readSize.runAt buf (offset + FrameLayout.sizeOffset)
  let (_, n) ← Reader.byte.runAt buf (offset + FrameLayout.typeOffset)
  let (_, id) ← Reader.word32.runAt buf (offset + FrameLayout.idOffset)
  return { size, type := ← typeOf n, id }

/-- Reads as much of the header at `offset` as a frame needs: size, type and id. -/
def read (buf : Bytes) (offset : Nat) : Outcome FrameHeader := do
  let (next, size) ← readSize.runAt buf offset
  let (_, n) ← Reader.byte.runAt buf next
  let type ← typeOf n
  let (_, id) ← Reader.word32.runAt buf (offset + FrameLayout.idOffset)
  return { size, type, id }

end FrameHeader

/-- Reports an error in the body of a call frame with the frame's id. -/
def tagBodyError (type : FrameType) (id : UInt32) : Fault FrameError → Fault FrameError
  | .refused e => .refused (if type.isCall then .call id e else e)
  | .breach b => .breach b

/-- The refusal of a frame of the given size, of which the buffer ends too early. -/
def truncated {α : Type} (size : UInt16) (buf : Bytes) (offset : Nat) : Outcome α := do
  let remaining ← difference buf.length offset
  refuse (.shortRead size.toNat remaining offset)

namespace ConnectionPools

/-- Reads the frame at `offset`; returns the offset behind it and a handle on it. -/
def readFrame (p : ConnectionPools) (buf : Bytes) (offset : Nat) :
    Outcome (Nat × Pooled Frame) × ConnectionPools :=
  match FrameHeader.read buf offset with
  | .error fault => (.error fault, p)
  | .ok header =>
      let stop := offset + header.size.toNat
      let (result, p) :=
        if Bytes.covers stop buf then
          p.readBody header.type (buf.take stop) (offset + FrameLayout.bodyOffset)
        else (truncated header.size buf offset, p)
      match result with
      | .error fault => (.error (tagBodyError header.type header.id fault), p)
      | .ok (_, body) =>
          let (h, p) := p.takeFrame
          let frame : Frame := { size := header.size, id := header.id, body? := some body }
          (.ok (stop, { h with value? := some frame }), p)

end ConnectionPools

end CallWire
