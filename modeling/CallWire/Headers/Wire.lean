import CallWire.Field
import CallWire.Headers.Index

/-!
# Header maps on the wire

The count of the entries is followed by each key and value as a text field, all with counts of one
width. What is read is inserted pair by pair, so a repeated key ends up with its later value.
-/

namespace CallWire.Headers

def length (w : Width) (h : Headers) : Except FrameError Nat :=
  if w.limit < h.size then .error (.tooManyHeaders h.size)
  else h.entries.foldlM (fun n (k, v) => do
    let key ← TextField.length w k
    let value ← TextField.length w v
    return n + key + value) w.bytes

/-- The fields that hold the entries. -/
def entrySegments (w : Width) (es : List (String × String)) : List Segment :=
  es.flatMap fun (k, v) => TextField.segments w k ++ TextField.segments w v

def segments (w : Width) (h : Headers) : List Segment :=
  if w.limit < h.size then [.refuse (.tooManyHeaders h.size)]
  else .count w h.size :: entrySegments w h.entries

def encode (w : Width) (h : Headers) : Outcome Bytes := do
  assemble (h.segments w) (← Outcome.ofExcept (h.length w))

def readPairs (w : Width) : Nat → Reader (List (String × String))
  | 0 => pure []
  | n + 1 => do
      let key ← TextField.read w
      let value ← TextField.read w
      let rest ← readPairs w n
      return (key, value) :: rest

def read (w : Width) : Reader Headers := do
  let n ← Reader.count w
  return collect (← readPairs w n)

end CallWire.Headers
