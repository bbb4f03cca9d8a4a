import CallWire.LazyFrame

/-!
# Error responses read in place

The three fields of an error response stand at fixed places of its frame, up to the end of the
message, and can be read from a lazy frame without decoding its body.
-/

namespace CallWire.LazyFrame

def codeOffset : Nat := FrameLayout.bodyOffset

def tracingOffset : Nat := codeOffset + 1

def messageOffset : Nat := tracingOffset + Tracing.width

def errorTracing (f : LazyFrame) : Outcome Tracing := do
  let bytes ← f.view
  let (_, tracing) ← Reader.tracing.runAt bytes tracingOffset
  return tracing

/-- The error code. An undefined code is reported with the tracing value, as far as there is one. -/
def errorCode (f : LazyFrame) : Outcome ErrorCode := do
  let bytes ← f.view
  let (_, n) ← Reader.byte.runAt bytes codeOffset
  match ErrorCode.ofNumber? n, f.errorTracing with
  | some code, _ => return code
  | none, .ok tracing => refuse (.invalidErrorCode n tracing)
  | none, .error _ => refuse (.invalidErrorCode n Tracing.empty)

def errorMessage (f : LazyFrame) : Outcome String := do
  let bytes ← f.view
  let (_, message) ← (TextField.read .wide).runAt bytes messageOffset
  return message

end CallWire.LazyFrame
