import CallWire.FrameSplitter

/-!
# Sessions

A session is what a process has at hand while frames come and go: the pools of each of its
connections, a splitter for the bytes that arrive, and a handle on every lazy frame, frame and error
response that it has made. Pools and handles are named by their place, and a handle keeps its place
when it is given back. An instance may be given back to the pools of any connection.

An operation that fails keeps what it has changed before it failed.
-/

namespace CallWire

inductive Resource where
  | lazyFrame
  | frame
  | error

namespace Resource

abbrev Content : Resource → Type
  | lazyFrame => LazyFrame
  | frame => Frame
  | error => ErrorResponse

def clone : (k : Resource) → Pooled k.Content → Pooled k.Content
  | lazyFrame => LazyFrame.cloneHandle
  | frame => Frame.cloneHandle
  | error => Pooled.clone

def same : (k : Resource) → Pooled k.Content → Pooled k.Content → Bool
  | lazyFrame => LazyFrame.sameHandle
  | frame => Frame.sameHandle
  | error => Pooled.same

def take : (k : Resource) → ConnectionPools → Pooled k.Content × ConnectionPools
  | lazyFrame => ConnectionPools.takeLazyFrame
  | frame => ConnectionPools.takeFrame
  | error => ConnectionPools.takeError

def free : (k : Resource) → ConnectionPools → Pooled k.Content →
    Outcome (Pooled k.Content) × ConnectionPools
  | lazyFrame => ConnectionPools.freeLazyFrame
  | frame => ConnectionPools.freeFrame
  | error => ConnectionPools.freeError

end Resource

structure Session where
  pools : List ConnectionPools
  splitter : FrameSplitter
  lazyFrames : List (Pooled LazyFrame)
  frames : List (Pooled Frame)
  errors : List (Pooled ErrorResponse)

namespace Session

def fresh (n : Nat) : Session := ⟨List.replicate n .empty, .empty, [], [], []⟩

def handles (s : Session) : (k : Resource) → List (Pooled k.Content)
  | .lazyFrame => s.lazyFrames
  | .frame => s.frames
  | .error => s.errors

def setHandles (s : Session) : (k : Resource) → List (Pooled k.Content) → Session
  | .lazyFrame, hs => { s with lazyFrames := hs }
  | .frame, hs => { s with frames := hs }
  | .error, hs => { s with errors := hs }

theorem handles_setHandles (s : Session) (k : Resource) (hs : List (Pooled k.Content)) :
    (s.setHandles k hs).handles k = hs := by
  cases k <;> rfl

inductive Failure where
  | noHandle
  | fault (fault : Fault FrameError)

end Session

abbrev SessionM := ExceptT Session.Failure (StateM Session)

namespace Session

def perform {α : Type} (s : Session) (action : SessionM α) : Except Failure α × Session :=
  action.run.run s

def ensure {α : Type} : Outcome α → SessionM α
  | .ok a => pure a
  | .error fault => throw (.fault fault)

/-- The outcome of a part of an operation, which goes on after a refusal but not after a breach. -/
def attempt {α : Type} : Outcome α → SessionM (Except FrameError α)
  | .ok a => pure (.ok a)
  | .error (.refused e) => pure (.error e)
  | .error (.breach b) => throw (.fault (.breach b))

def handle (k : Resource) (i : Nat) : SessionM (Pooled k.Content) := do
  match ((← get).handles k)[i]? with
  | some h => return h
  | none => throw .noHandle

def setHandle (k : Resource) (i : Nat) (h : Pooled k.Content) : SessionM Unit :=
  modify fun s => s.setHandles k ((s.handles k).set i h)

/-- Gives a new handle the next place. -/
def add (k : Resource) (h : Pooled k.Content) : SessionM (Pooled k.Content) := do
  modify fun s => s.setHandles k (s.handles k ++ [h])
  return h

def content (k : Resource) (i : Nat) : SessionM k.Content := do
  ensure (← handle k i).get

/-- Changes the instance behind the handle at a place; returns the handle. -/
def setContent (k : Resource) (i : Nat) (a : k.Content) : SessionM (Pooled k.Content) := do
  let h ← ensure ((← handle k i).set a)
  setHandle k i h
  return h

/-- Uses the pools of a connection, whose change is kept whatever comes of it. -/
def withPools {α : Type} (p : Nat) (f : ConnectionPools → Outcome α × ConnectionPools) :
    SessionM α := do
  let (result, pools) := f ((← get).pools[p]?.getD .empty)
  modify fun s => { s with pools := s.pools.set p pools }
  ensure result

def take (k : Resource) (p : Nat) : SessionM (Pooled k.Content) := do
  add k (← withPools p fun pools => let (h, pools) := k.take pools; (.ok h, pools))

def clone (k : Resource) (i : Nat) : SessionM (Pooled k.Content) := do
  add k (k.clone (← handle k i))

def free (k : Resource) (p i : Nat) : SessionM (Pooled k.Content) := do
  let h ← handle k i
  let h ← withPools p (k.free · h)
  setHandle k i h
  return h

end Session

end CallWire
