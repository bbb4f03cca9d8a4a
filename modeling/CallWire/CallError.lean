import CallWire.Json.Value
import CallWire.Notice

/-!
# Call errors

What an application sees of a call that failed on the remote side. Call errors are exchanged as
JSON.
-/

namespace CallWire

structure CallError where
  code : ErrorCode
  message : String
  frameId? : Option UInt32
  deriving DecidableEq

namespace CallError

/-- A call error, in which the code's own message stands in for an empty one. -/
def make (code : ErrorCode) (message : String) : CallError :=
  ⟨code, if message.isEmpty then code.defaultMessage else message, none⟩

def withFrameId (e : CallError) (id : UInt32) : CallError := { e with frameId? := some id }

def ofErrorResponse (r : ErrorResponse) (frameId : UInt32) : CallError :=
  (make r.code r.message).withFrameId frameId

def describe (e : CallError) : String := s!"{e.code.name} ({e.code.number.toNat}): {e.message}"

def toJson (e : CallError) : String :=
  Json.object <|
    [("code", Json.quote e.code.name), ("message", Json.quote e.message)] ++
      e.frameId?.toList.map fun id => ("original_id", toString id.toNat)

/-- The error code that a value names, either as a text or as an object with the code's name for
its only member, which is null. -/
def codeOf? : Json.Value → Option ErrorCode
  | .text (some name) => ErrorCode.ofName? name
  | .object [(some name, .null)] => ErrorCode.ofName? name
  | _ => none

def idOf? (v : Json.Value) : Option UInt32 := (v.count? 4294967295).map UInt32.ofNat

/-- The call error that a value stands for: an object, in which the id may be missing, or an array
of code, message and id. Messages are taken as they are, empty ones included. -/
def ofValue? : Json.Value → Option CallError
  | .object members => do
      let members ← Json.named? members
      let code ← Json.single? members "code"
      let message ← Json.single? members "message"
      let id ← Json.single? members "original_id"
      some {
        code := ← code.bind codeOf?
        message := ← message.bind Json.Value.text?
        frameId? := ← (id.getD .null).optional? idOf? }
  | .array [code, message, id] => do
      some {
        code := ← codeOf? code
        message := ← message.text?
        frameId? := ← id.optional? idOf? }
  | _ => none

def ofJson? (s : String) : Option CallError := (Json.parse? s).bind ofValue?

end CallError

end CallWire
