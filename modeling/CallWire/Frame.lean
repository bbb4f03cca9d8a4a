import CallWire.Body
import CallWire.Pool

/-!
# Frames

The size of a frame counts its header as well.

```text
0      2      3      4          8                  16
+------+------+------+----------+------------------+----------
| size | type | 0x00 |    id    | 8 reserved bytes | body ...
+------+------+------+----------+------------------+----------
```
-/

namespace CallWire

namespace FrameLayout

def overhead : Nat := 16

def maxSize : Nat := 65535

def maxBodySize : Nat := maxSize - overhead

def maxId : UInt32 := 0xfffffffe

def nullId : UInt32 := 0xffffffff

def sizeOffset : Nat := 0

def typeOffset : Nat := 2

def idOffset : Nat := 4

def bodyOffset : Nat := overhead

end FrameLayout

/-- A body whose error response is held through a handle. -/
abbrev HeldBody := Body (Pooled ErrorResponse)

namespace HeldBody

def ofBody (b : Body ErrorResponse) : HeldBody := b.mapError .detached

def live (b : HeldBody) : Outcome (Body ErrorResponse) := b.mapErrorM Pooled.get

/-- What the body holds, whether or not a pool counts it. -/
def contents (b : HeldBody) : Body (Option ErrorResponse) := b.mapError (·.value?)

def clone (b : HeldBody) : HeldBody := b.mapError Pooled.clone

def length (b : HeldBody) : Outcome Nat := do
  let body ← b.live
  Outcome.ofExcept body.length

def segments (b : HeldBody) : List Segment :=
  match b.live with
  | .ok body => body.segments
  | .error fault => [.stop fault]

def encode (b : HeldBody) : Outcome Bytes := do
  assemble b.segments (← b.length)

end HeldBody

structure Frame where
  /-- The size on the wire, once the frame has been read or written. -/
  size : UInt16
  id : UInt32
  body? : Option HeldBody

namespace Frame

def blank : Frame := ⟨0, FrameLayout.nullId, none⟩

def reset (f : Frame) : Frame := { f with size := 0, id := FrameLayout.nullId, body? := none }

def make (id : UInt32) (body : HeldBody) : Frame := ⟨0, id, some body⟩

def type? (f : Frame) : Option FrameType := f.body?.map Body.frameType

def body (f : Frame) : Outcome HeldBody :=
  match f.body? with
  | some b => .ok b
  | none => refuse .emptyFrame

def clone (f : Frame) : Frame := { f with body? := f.body?.map HeldBody.clone }

def same (f g : Frame) : Bool :=
  f.size == g.size && f.id == g.id &&
    f.body?.map HeldBody.contents == g.body?.map HeldBody.contents

def cloneHandle (h : Pooled Frame) : Pooled Frame := ⟨h.value?.map clone, false⟩

def sameHandle (h k : Pooled Frame) : Bool :=
  match h.value?, k.value? with
  | some f, some g => f.same g
  | none, none => true
  | _, _ => false

end Frame

end CallWire
