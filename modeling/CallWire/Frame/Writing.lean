import CallWire.Frame

/-!
# Writing frames

A frame is written header first, with the size put in last, when it is known. Into a buffer that
is made for it, a frame is written only if its size can be worked out beforehand and fits the size
field; what was written is then checked against that size.
-/

namespace CallWire.Frame

def length (f : Frame) : Outcome Nat := do
  let body ← f.body
  let n ← body.length
  return FrameLayout.overhead + n

/-- Everything behind the size field. -/
def segments (id : UInt32) (body : HeldBody) : List Segment :=
  [.byte body.frameType.number, .byte 0, .word32 id, .zeros 8] ++ body.segments

/-- Writes the frame at `offset` in `buf`. Returns the buffer afterwards and, if all went well, the
offset behind the frame and the frame with its size. -/
def writeAt (f : Frame) (buf : Bytes) (offset : Nat) : Bytes × Outcome (Nat × Frame) :=
  match f.body with
  | .error fault => (buf, .error fault)
  | .ok body =>
      match CallWire.writeAt (segments f.id body) buf (offset + FrameLayout.typeOffset) with
      | (buf, .error fault) => (buf, .error fault)
      | (buf, .ok stop) =>
          match difference stop offset with
          | .error fault => (buf, .error fault)
          | .ok size =>
              if FrameLayout.maxSize < size then (buf, refuse (.frameTooLarge size))
              else
                let size := UInt16.ofNat size
                match CallWire.writeAt [.word16 size] buf (offset + FrameLayout.sizeOffset) with
                | (buf, .error fault) => (buf, .error fault)
                | (buf, .ok _) => (buf, .ok (stop, { f with size }))

/-- The size of the frame on the wire, which must fit the size field. -/
def measure (f : Frame) : Outcome Nat := do
  let n ← f.length
  if FrameLayout.maxSize < n then refuse (.frameTooLarge n) else return n

def encode (f : Frame) : Outcome (Bytes × Frame) := do
  let measured ← f.measure
  match f.writeAt (Bytes.zeros measured) 0 with
  | (_, .error fault) => .error fault
  | (bytes, .ok (written, f)) =>
      if written = measured then return (bytes, f)
      else refuse (.lengthMismatch measured written)

/-- Appends the bytes of the frame to `dst`, which is left as it was if that fails. Returns how many
there were, and the frame with its size. -/
def encodeInto (f : Frame) (dst : Bytes) : Bytes × Outcome (Nat × Frame) :=
  match f.measure with
  | .error fault => (dst, .error fault)
  | .ok measured =>
      match f.writeAt (Bytes.zeros measured) 0 with
      | (_, .error fault) => (dst, .error fault)
      | (bytes, .ok (written, f)) =>
          if written = measured then (dst ++ bytes, .ok (written, f))
          else (dst, refuse (.lengthMismatch measured written))

/-- The bytes of frames in a row, without those that cannot be encoded, and the faults of the
latter. -/
def encodeAll (frames : List Frame) : Bytes × List (Fault FrameError) :=
  let results := frames.map encode
  (results.flatMap fun | .ok (bytes, _) => bytes | .error _ => [],
    results.filterMap fun | .ok _ => none | .error fault => some fault)

end CallWire.Frame
