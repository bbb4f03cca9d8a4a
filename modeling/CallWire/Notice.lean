import CallWire.ErrorCode
import CallWire.Field

/-!
# Notices about a call

Three short bodies tell the other side something about a call that is under way: the caller gives
it up, a worker claims it, or it failed.
-/

namespace CallWire

/-- Asks the other side to abandon a call. -/
structure Cancel where
  ttl : UInt32
  tracing : Tracing
  why : String
  deriving DecidableEq

namespace Cancel

def length (c : Cancel) : Except FrameError Nat := do
  let why ← TextField.length .wide c.why
  return 4 + Tracing.width + why

def segments (c : Cancel) : List Segment :=
  [.word32 c.ttl, .tracing c.tracing] ++ TextField.segments .wide c.why

def read : Reader Cancel := do
  let ttl ← Reader.word32
  let tracing ← Reader.tracing
  let why ← TextField.read .wide
  return { ttl, tracing, why }

end Cancel

/-- Tells that the sender has taken up a call. -/
structure Claim where
  ttl : UInt32
  tracing : Tracing
  deriving DecidableEq

namespace Claim

def size : Nat := 4 + Tracing.width

def segments (c : Claim) : List Segment := [.word32 c.ttl, .tracing c.tracing]

def read : Reader Claim := do
  let ttl ← Reader.word32
  let tracing ← Reader.tracing
  return { ttl, tracing }

end Claim

/-- Tells that a call has failed. -/
structure ErrorResponse where
  code : ErrorCode
  tracing : Tracing
  message : String
  deriving DecidableEq

namespace ErrorResponse

def blank : ErrorResponse := ⟨.unexpectedError, Tracing.empty, ""⟩

def reset (e : ErrorResponse) : ErrorResponse :=
  { e with code := .unexpectedError, tracing := Tracing.empty, message := "" }

def length (e : ErrorResponse) : Except FrameError Nat := do
  let message ← TextField.length .wide e.message
  return 1 + Tracing.width + message

def segments (e : ErrorResponse) : List Segment :=
  [.byte e.code.number, .tracing e.tracing] ++ TextField.segments .wide e.message

/-- Reads an error response. The code is judged once the tracing value is known, and before the
message is looked at. -/
def read : Reader ErrorResponse := do
  let n ← Reader.byte
  let tracing ← Reader.tracing
  match ErrorCode.ofNumber? n with
  | none => Reader.fail (.invalidErrorCode n tracing)
  | some code =>
      let message ← TextField.read .wide
      return { code, tracing, message }

end ErrorResponse

end CallWire
