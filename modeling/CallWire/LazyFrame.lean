import CallWire.Frame

/-!
# Lazy frames

A lazy frame keeps the bytes of a frame and reads no more of them than the header, so that it can be
routed and passed on without its body being decoded. The body is decoded when it is first asked for
and then kept.
-/

namespace CallWire

structure LazyFrame where
  size : UInt16
  type? : Option FrameType
  id : UInt32
  /-- All bytes of the frame. -/
  view? : Option Bytes
  /-- The body, once it has been decoded. -/
  body? : Option HeldBody

namespace LazyFrame

def blank : LazyFrame := ⟨0, none, FrameLayout.nullId, none, none⟩

def reset (f : LazyFrame) : LazyFrame :=
  { f with size := 0, type? := none, id := FrameLayout.nullId, view? := none, body? := none }

def view (f : LazyFrame) : Outcome Bytes :=
  match f.view? with
  | some bytes => .ok bytes
  | none => refuse (.corruptLazyFrame "buffer")

def clone (f : LazyFrame) : LazyFrame := { f with body? := f.body?.map HeldBody.clone }

def same (f g : LazyFrame) : Bool :=
  f.size == g.size && f.type? == g.type? && f.id == g.id && f.view? == g.view? &&
    f.body?.map HeldBody.contents == g.body?.map HeldBody.contents

def cloneHandle (h : Pooled LazyFrame) : Pooled LazyFrame := ⟨h.value?.map clone, false⟩

def sameHandle (h k : Pooled LazyFrame) : Bool :=
  match h.value?, k.value? with
  | some f, some g => f.same g
  | none, none => true
  | _, _ => false

/-- Whether the frame ends its call: an error response, or the last fragment of a call response,
told by the first byte of the body. -/
def isTerminal (f : LazyFrame) : Bool :=
  match f.type? with
  | some .errorResponse => true
  | some .callResponse | some .callResponseCont =>
      match f.view?.bind (·[FrameLayout.bodyOffset]?) with
      | some flags => !hasMore flags
      | none => false
  | _ => false

def writeAt (f : LazyFrame) (buf : Bytes) (offset : Nat) : Bytes × Outcome Nat :=
  match f.view with
  | .ok bytes => CallWire.writeAt [.put bytes] buf offset
  | .error fault => (buf, .error fault)

/-- Gives the frame another id, in its bytes as well. -/
def setId (f : LazyFrame) (id : UInt32) : Outcome LazyFrame := do
  let bytes ← f.view
  match CallWire.writeAt [.word32 id] bytes FrameLayout.idOffset with
  | (bytes, .ok _) => return { f with view? := some bytes, id }
  | (_, .error fault) => .error fault

end LazyFrame

end CallWire
