import CallWire.Headers.Wire

/-!
# Handshakes

Both sides of a connection open it with a protocol version and a header map that has to name the
host and the process. A handshake without these headers is refused when it is read and before any
byte of it is written.
-/

namespace CallWire

structure Handshake where
  version : UInt16
  headers : Headers
  deriving DecidableEq

namespace Handshake

/-- The version that this library speaks. -/
def currentVersion : UInt16 := 2

/-- The header keys that a handshake must have. -/
def requiredKeys : List String := ["host_port", "process_name"]

/-- A handshake of the current version with the required headers. -/
def make (hostPort processName : String) : Handshake where
  version := currentVersion
  headers := Headers.ofList [("host_port", hostPort), ("process_name", processName)]

def withHeader (h : Handshake) (key value : String) : Handshake :=
  { h with headers := h.headers.insert key value }

def hostPort? (h : Handshake) : Option String := h.headers.get? "host_port"

def processName? (h : Handshake) : Option String := h.headers.get? "process_name"

def missingKey? (h : Handshake) : Option String :=
  requiredKeys.find? fun key => !h.headers.contains key

def length (h : Handshake) : Except FrameError Nat := do
  let n ← h.headers.length .wide
  return 2 + n

def segments (h : Handshake) : List Segment :=
  match h.missingKey? with
  | some key => [.refuse (.missingInitHeader key)]
  | none => .word16 h.version :: h.headers.segments .wide

def encode (h : Handshake) : Outcome Bytes := do
  assemble h.segments (← Outcome.ofExcept h.length)

def read : Reader Handshake := do
  let version ← Reader.word16
  let headers ← Headers.read .wide
  let h : Handshake := { version, headers }
  match h.missingKey? with
  | some key => Reader.fail (.missingInitHeader key)
  | none => return h

end Handshake

end CallWire
