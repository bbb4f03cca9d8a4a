import CallWire.Checksum
import CallWire.Chunks
import CallWire.Headers.Wire

/-!
# Call bodies

A call travels as a request and a response. Each is a first frame that holds what describes the
call, and any number of continuations that hold only argument chunks. A flag marks every frame that
is followed by another of the same message.
-/

namespace CallWire

/-- The flag of a body that is not the last of its message. -/
def moreFragments : UInt8 := 0x01

/-- Whether the flags announce another fragment. -/
def hasMore (flags : UInt8) : Bool := flags &&& moreFragments != 0

structure CallRequest where
  flags : UInt8
  /-- How long the caller waits, in milliseconds. -/
  ttl : UInt32
  tracing : Tracing
  service : String
  headers : Headers
  checksum : Checksum
  args : List Bytes
  deriving DecidableEq

namespace CallRequest

def length (r : CallRequest) : Except FrameError Nat := do
  let service ← TextField.length .narrow r.service
  let headers ← r.headers.length .narrow
  let args ← Chunks.length r.args
  return 1 + 4 + Tracing.width + service + headers + r.checksum.length + args

def segments (r : CallRequest) : List Segment :=
  [.byte r.flags, .word32 r.ttl, .tracing r.tracing] ++ TextField.segments .narrow r.service ++
    r.headers.segments .narrow ++ r.checksum.segments ++ Chunks.segments r.args

def read : Reader CallRequest := do
  let flags ← Reader.byte
  let ttl ← Reader.word32
  let tracing ← Reader.tracing
  let service ← TextField.read .narrow
  let headers ← Headers.read .narrow
  let checksum ← Checksum.read
  let args ← Chunks.read
  return { flags, ttl, tracing, service, headers, checksum, args }

end CallRequest

structure CallResponse where
  flags : UInt8
  /-- Zero if the call succeeded. -/
  code : UInt8
  tracing : Tracing
  headers : Headers
  checksum : Checksum
  args : List Bytes
  deriving DecidableEq

namespace CallResponse

def ok : UInt8 := 0x00

def notOk : UInt8 := 0x01

def isOk (r : CallResponse) : Bool := r.code == ok

def length (r : CallResponse) : Except FrameError Nat := do
  let headers ← r.headers.length .narrow
  let args ← Chunks.length r.args
  return 1 + 1 + Tracing.width + headers + r.checksum.length + args

def segments (r : CallResponse) : List Segment :=
  [.byte r.flags, .byte r.code, .tracing r.tracing] ++ r.headers.segments .narrow ++
    r.checksum.segments ++ Chunks.segments r.args

def read : Reader CallResponse := do
  let flags ← Reader.byte
  let code ← Reader.byte
  let tracing ← Reader.tracing
  let headers ← Headers.read .narrow
  let checksum ← Checksum.read
  let args ← Chunks.read
  return { flags, code, tracing, headers, checksum, args }

end CallResponse

/-- A fragment after the first of a request or a response. -/
structure Continuation where
  flags : UInt8
  checksum : Checksum
  args : List Bytes
  deriving DecidableEq

namespace Continuation

def length (r : Continuation) : Except FrameError Nat := do
  let args ← Chunks.length r.args
  return 1 + r.checksum.length + args

def segments (r : Continuation) : List Segment :=
  .byte r.flags :: r.checksum.segments ++ Chunks.segments r.args

def read : Reader Continuation := do
  let flags ← Reader.byte
  let checksum ← Checksum.read
  let args ← Chunks.read
  return { flags, checksum, args }

end Continuation

end CallWire
