import CallWire.Arguments

/-!
# Streams of outgoing arguments

The three arguments of a call are written strictly in order: writing to an argument, or ending it,
ends all arguments before it. What has been written is handed out in batches, one at each flush and
a last one when the third argument ends.

The chunk that is being written is kept reversed, so that appending to it costs nothing for what it
holds already. `pending` is what the stream holds, and `pending_append` and `pending_closeChunks`
say how it changes.
-/

namespace CallWire

inductive ArgStreamError where
  | writeAfterEnd (arg : ArgIndex)
  | alreadyEnded (arg : ArgIndex)
  | finished
  deriving DecidableEq

def ArgStreamError.message : ArgStreamError → String
  | writeAfterEnd arg => arg.name ++ " written after it ended"
  | alreadyEnded arg => arg.name ++ " ended twice"
  | finished => "argument stream already finished"

inductive ArgEvent where
  /-- A batch of chunks; `isLast` marks the one that ends the third argument. -/
  | parts (chunks : List Bytes) (isLast : Bool)
  | error (error : ArgStreamError)
  | finish
  deriving DecidableEq

structure ArgStream where
  ended : Nat
  /-- The chunks of the next batch that are complete. -/
  closed : List Bytes
  /-- The bytes of the chunk behind them, last one first. -/
  tail : Bytes
  dirty : Bool
  finished : Bool
  deriving DecidableEq

namespace ArgStream

def empty : ArgStream := ⟨0, [], [], false, false⟩

/-- The chunks of the next batch, the first of which goes on with what was handed out. -/
def pending (s : ArgStream) : List Bytes := s.closed ++ [s.tail.reverse]

def current? (s : ArgStream) : Option ArgIndex := ArgIndex.all[s.ended]?

def append (s : ArgStream) (bs : Bytes) : ArgStream := { s with tail := bs.reverseAux s.tail }

/-- Completes chunks, `n` of them; all but the first are empty. -/
def closeChunks (s : ArgStream) : Nat → ArgStream
  | 0 => s
  | n + 1 => { s with closed := s.pending ++ List.replicate n [], tail := [] }

/-- Ends arguments until `count` have ended, each with an empty chunk for the next. -/
def advance (s : ArgStream) (count : Nat) : ArgStream :=
  { s.closeChunks (count - s.ended) with ended := max s.ended count }

theorem pending_append (s : ArgStream) (bs : Bytes) :
    (s.append bs).pending = extendLast bs s.pending := by
  have last (chunks : List Bytes) (chunk : Bytes) :
      extendLast bs (chunks ++ [chunk]) = chunks ++ [chunk ++ bs] := by
    induction chunks with
    | nil => rfl
    | cons first rest ih =>
      cases rest with
      | nil => rfl
      | cons second rest =>
        show first :: extendLast bs (second :: rest ++ [chunk]) = _
        rw [ih]
        rfl
  rw [pending, pending, last]
  simp [append, List.reverseAux_eq]

theorem pending_closeChunks (s : ArgStream) (n : Nat) :
    (s.closeChunks n).pending = s.pending ++ List.replicate n [] := by
  cases n with
  | zero => simp [closeChunks]
  | succ n => simp [closeChunks, pending, List.replicate_succ']

def takeBatch (s : ArgStream) (isLast : Bool) : ArgStream × ArgEvent :=
  ({ s with closed := [], tail := [], dirty := false }, .parts s.pending isLast)

def write (s : ArgStream) (arg : ArgIndex) (chunk : Bytes) : ArgStream × List ArgEvent :=
  if s.finished then (s, [.error .finished])
  else if arg.position < s.ended then (s, [.error (.writeAfterEnd arg)])
  else
    let s := s.advance arg.position
    ({ s.append chunk with dirty := true }, [])

/-- Ends an argument. With the third, the last batch is handed out and the stream is finished. -/
def endArg (s : ArgStream) (arg : ArgIndex) : ArgStream × List ArgEvent :=
  if s.finished then (s, [.error .finished])
  else if arg.position < s.ended then (s, [.error (.alreadyEnded arg)])
  else
    let s := s.advance arg.position
    let ended := s.ended + 1
    if ended < ArgIndex.all.length then
      ({ s.closeChunks 1 with ended, dirty := true }, [])
    else
      let (s, batch) := { s with ended, dirty := true }.takeBatch true
      ({ s with finished := true }, [batch, .finish])

/-- Hands the pending chunks out, if anything happened since the last batch. -/
def flush (s : ArgStream) : ArgStream × List ArgEvent :=
  if s.dirty && !s.finished then
    let (s, batch) := s.takeBatch false
    (s, [batch])
  else (s, [])

/-- Ends all arguments at once and drops what was not handed out. -/
def finishAll (s : ArgStream) : ArgStream :=
  if s.finished then s
  else { ended := ArgIndex.all.length, closed := [], tail := [], dirty := false, finished := true }

inductive Action where
  | write (arg : ArgIndex) (chunk : Bytes)
  | endArg (arg : ArgIndex)
  | flush
  | finishAll
  deriving DecidableEq

def step (s : ArgStream) : Action → ArgStream × List ArgEvent
  | .write arg chunk => s.write arg chunk
  | .endArg arg => s.endArg arg
  | .flush => s.flush
  | .finishAll => (s.finishAll, [])

def run (s : ArgStream) : List Action → ArgStream × List ArgEvent
  | [] => (s, [])
  | a :: rest =>
      let (s, events) := s.step a
      let (s, more) := s.run rest
      (s, events ++ more)

end ArgStream

end CallWire
