import CallWire.Frame.Reading

/-!
# Reading lazy frames

A lazy frame takes exactly the bytes that its size field declares. Its type and id are read from
them; the body follows on demand, within the same bytes.
-/

namespace CallWire

namespace LazyFrame

/-- Reads the header at `offset` and keeps the bytes of the frame; returns the offset behind it. -/
def read (buf : Bytes) (offset : Nat) : Outcome (Nat × LazyFrame) := do
  let (_, size) ← FrameHeader.readSize.runAt buf offset
  let stop := offset + size.toNat
  if Bytes.covers stop buf then
    let view := (buf.drop offset).take size.toNat
    let (_, n) ← Reader.byte.runAt view FrameLayout.typeOffset
    let type ← FrameHeader.typeOf n
    let (_, id) ← Reader.word32.runAt view FrameLayout.idOffset
    return (stop, { size, type? := some type, id, view? := some view, body? := none })
  else truncated size buf offset

end LazyFrame

namespace ConnectionPools

/-- Reads the lazy frame at `offset` into an instance of the pool, which is not touched if that
fails. -/
def readLazyFrame (p : ConnectionPools) (buf : Bytes) (offset : Nat) :
    Outcome (Nat × Pooled LazyFrame) × ConnectionPools :=
  match LazyFrame.read buf offset with
  | .error fault => (.error fault, p)
  | .ok (stop, frame) =>
      let (h, p) := p.takeLazyFrame
      (.ok (stop, { h with value? := some frame }), p)

/-- The body of a lazy frame, decoded unless it is known already. Returns the frame that knows it. -/
def decodeBody (p : ConnectionPools) (f : LazyFrame) :
    Outcome (HeldBody × LazyFrame) × ConnectionPools :=
  match f.body? with
  | some body => (.ok (body, f), p)
  | none =>
      match f.view, f.type? with
      | .error fault, _ => (.error fault, p)
      | .ok _, none => (refuse (.corruptLazyFrame "frame type"), p)
      | .ok view, some type =>
          match p.readBody type view FrameLayout.bodyOffset with
          | (.error fault, p) => (.error (tagBodyError type f.id fault), p)
          | (.ok (_, body), p) => (.ok (body, { f with body? := some body }), p)

end ConnectionPools

end CallWire
