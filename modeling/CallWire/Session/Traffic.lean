import CallWire.Frame.Writing
import CallWire.Session

/-!
# Traffic of a session

Frames arrive, are read, decoded and passed on, or are made and written; their bodies are taken out
of them and given back. Everything that is read into a pool's instance gets a handle in the session.
-/

namespace CallWire.Session

def feed (bs : Bytes) : SessionM Unit := modify fun s => { s with splitter := s.splitter.feed bs }

def clear : SessionM Unit := modify fun s => { s with splitter := s.splitter.clear }

/-- The next frame of what has arrived, if it is complete. -/
def parse (p : Nat) : SessionM (Option (Pooled LazyFrame)) := do
  let splitter := (← get).splitter
  let (result, splitter) ← withPools p fun pools =>
    let (result, pools, splitter) := splitter.next pools
    (.ok (result, splitter), pools)
  modify fun s => { s with splitter }
  match ← ensure result with
  | some h => return some (← add .lazyFrame h)
  | none => return none

def readLazyFrame (p : Nat) (buf : Bytes) (offset : Nat) : SessionM (Nat × Pooled LazyFrame) := do
  let (stop, h) ← withPools p (·.readLazyFrame buf offset)
  return (stop, ← add .lazyFrame h)

def readFrame (p : Nat) (buf : Bytes) (offset : Nat) : SessionM (Nat × Pooled Frame) := do
  let (stop, h) ← withPools p (·.readFrame buf offset)
  return (stop, ← add .frame h)

/-- The body of a lazy frame, which knows it afterwards. -/
def decodeBody (p i : Nat) : SessionM HeldBody := do
  let f ← content .lazyFrame i
  let (body, f) ← withPools p (·.decodeBody f)
  let _ ← setContent .lazyFrame i f
  return body

def setId (i : Nat) (id : UInt32) : SessionM (Pooled LazyFrame) := do
  let f ← content .lazyFrame i
  setContent .lazyFrame i (← ensure (f.setId id))

/-- Writes a frame, which knows its size afterwards if that went well. Returns what `write` has made
of its buffer. -/
def writeFrame {α : Type} (i : Nat) (write : Frame → Bytes × Outcome (α × Frame)) :
    SessionM (Bytes × Except FrameError α) := do
  let (buf, result) := write (← content .frame i)
  match ← attempt result with
  | .ok (a, f) =>
      let _ ← setContent .frame i f
      return (buf, .ok a)
  | .error e => return (buf, .error e)

/-- Gives back the error response that a frame holds, and leaves the emptied handle in the frame.
False if the frame holds none. -/
def freeInner (p i : Nat) : SessionM Bool := do
  let f ← content .frame i
  match f.body? with
  | some (.error h) =>
      let h ← withPools p (·.freeError h)
      let _ ← setContent .frame i { f with body? := some (.error h) }
      return true
  | _ => return false

/-- Takes the body out of a frame and gives it back. False if the frame has none. -/
def freeBody (p i : Nat) : SessionM Bool := do
  let f ← content .frame i
  match f.body? with
  | some body =>
      let _ ← setContent .frame i { f with body? := none }
      withPools p fun pools => (.ok (), pools.freeBody body)
      return true
  | none => return false

/-- Moves the handle on an error response into a frame. The handles behind it move up. -/
def moveError (i frame : Nat) : SessionM Unit := do
  let h ← handle .error i
  let _ ← handle .frame frame
  modify fun s => { s with errors := s.errors.eraseIdx i }
  let f ← content .frame frame
  let _ ← setContent .frame frame { f with body? := some (.error h) }

end CallWire.Session
