import CallWire.Field

/-!
# Argument chunks

The body of a call frame ends with up to three chunks of argument bytes, each behind a count of two
bytes. Their number is not written: they go on to the end of the frame.
-/

namespace CallWire.Chunks

def limit : Nat := 3

def sizes : List Bytes → Except FrameError Nat
  | [] => .ok 0
  | chunk :: rest =>
      if Width.wide.limit < chunk.length then
        .error (.stringTooLong chunk.length Width.wide.limit)
      else do
        let more ← sizes rest
        return Width.wide.bytes + chunk.length + more

def length (chunks : List Bytes) : Except FrameError Nat :=
  if limit < chunks.length then .error (.tooManyArgs chunks.length) else sizes chunks

/-- Chunks that do not fit one frame are refused before the first of them is written. -/
def segments (chunks : List Bytes) : List Segment :=
  match length chunks with
  | .error e => [.refuse e]
  | .ok _ => chunks.flatMap fun chunk => [.count .wide chunk.length, .put chunk]

/-- Reads chunks up to the end of the buffer, at most `room` of them. -/
def readUpTo : Nat → Reader (List Bytes)
  | 0 => do
      if ← Reader.atEnd then return []
      else Reader.fail (.tooManyArgs (limit + 1))
  | room + 1 => do
      if ← Reader.atEnd then return []
      else
        let n ← Reader.count .wide
        let chunk ← Reader.take n
        let rest ← readUpTo room
        return chunk :: rest

def read : Reader (List Bytes) := readUpTo limit

end CallWire.Chunks
