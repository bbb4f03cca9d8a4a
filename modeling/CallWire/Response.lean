import CallWire.Credits
import CallWire.Frame.Writing
import CallWire.Response.Error
import CallWire.Response.Fragment

/-!
# Responses

A response sends batches of argument parts as frames, until either the batch that is marked as the
last has been sent or an error frame has taken its place. Frames that lack credit wait in a backlog,
in order, until more credits are granted. Error frames need no credit. Frames that come together
are treated as if they came one by one (`enqueueAll_cons`).

Every operation gives its answer together with the response afterwards; an operation that is
refused may have changed the response all the same, for instance when the outlet for frames turns
out to be closed.
-/

namespace CallWire

structure Outlet where
  /-- All frames that have been taken, last one first. -/
  taken : List Frame
  /-- How many more are taken, if those who take them are about to go away. -/
  room? : Option Nat

namespace Outlet

def fresh : Outlet := ⟨[], none⟩

def sent (o : Outlet) : List Frame := o.taken.reverse

def isOpen (o : Outlet) : Bool := o.room? != some 0

/-- Those who take the frames go away after `n` more of them. -/
def closeAfter (o : Outlet) (n : Nat) : Outlet :=
  { o with room? := some (o.room?.elim n (min n)) }

def put? (o : Outlet) (f : Frame) : Option Outlet :=
  if o.isOpen then some ⟨f :: o.taken, o.room?.map (· - 1)⟩ else none

theorem sent_put? {o p : Outlet} {f : Frame} (h : o.put? f = some p) : p.sent = o.sent ++ [f] := by
  unfold put? at h
  split at h
  · cases h
    simp [sent]
  · cases h

end Outlet

structure Span where
  tracing : Tracing
  notes : List String

structure Response where
  id : UInt32
  state : ResponseState
  code : UInt8
  config : ResponseConfig
  span? : Option Span
  /-- The credits for call frames, or none if they need none. -/
  credits? : Option Credits
  /-- The frames that wait for credit, oldest first. -/
  backlog : List Frame
  /-- Whether the observer has been told that the response has ended. -/
  finished : Bool
  outlet : Outlet
  events : List ResponseEvent

namespace Response

/-- A new response. Settings that cannot be used are refused. -/
def make (id : UInt32) (config : ResponseConfig) : Answer Response :=
  match config.validate with
  | .error e => .error (.refused (.config e))
  | .ok () => .ok {
      id, config
      state := .initial
      code := CallResponse.ok
      span? := none
      credits? := config.initialCredits?.map Credits.mk
      backlog := []
      finished := false
      outlet := .fresh
      events := [] }

def describe (r : Response) : String :=
  s!"ResponseCore \x7b id: {r.id.toNat}, state: {r.state.tag}, code: {r.code.toNat}, "
    ++ s!"backlog: {r.backlog.length} \x7d"

def setSpan (r : Response) (span : Span) : Response := { r with span? := some span }

def setCredits (r : Response) (c : Credits) : Response := { r with credits? := some c }

/-- Closes the outlet once it has taken `n` more frames, which may be in the middle of a batch. -/
def closeOutletAfter (r : Response) (n : Nat) : Response :=
  { r with outlet := r.outlet.closeAfter n }

def closeOutlet (r : Response) : Response := r.closeOutletAfter 0

def tracing (r : Response) : Tracing := (r.span?.map (·.tracing)).getD Tracing.empty

def noteSend (r : Response) : Response :=
  { r with span? := r.span?.map fun s => { s with notes := s.notes ++ [serverSend] } }

/-- False while frames wait for credit or none is left. -/
def isWritable (r : Response) : Bool :=
  match r.credits? with
  | some c => r.backlog.isEmpty && !c.isExhausted
  | none => true

def ensureOpen (r : Response) (attempted : String) : Answer Unit :=
  if r.state.isTerminal then .error (.refused (.alreadyDone attempted)) else .ok ()

/-- Sets the status, which can only be done before the first frame. -/
def setOk (r : Response) (ok : Bool) : Answer Unit × Response :=
  if r.state = .initial then
    (.ok (), { r with code := if ok then CallResponse.ok else CallResponse.notOk })
  else (.error (.refused (.alreadyStarted r.state)), r)

def tell (r : Response) (event : ResponseEvent) : Response :=
  { r with events := r.events ++ [event] }

/-- Tells the observer that the response has ended, if it has and was not told so before. -/
def finish (r : Response) : Response :=
  if r.state.isTerminal && !r.finished then { r with finished := true }.tell .finished else r

def failTransport (r : Response) : Response :=
  let state := if r.state.isTerminal then r.state else .error
  { r with state, backlog := [] }.finish

/-- What the first frame holds besides its chunks: flags, code, tracing, headers, checksum type. -/
def openingPreamble (r : Response) : Except FrameError Nat := do
  let headers ← r.config.headers.length .narrow
  return 1 + 1 + Tracing.width + headers + 1

/-- The frame of a fragment; the first of a response holds its status and headers. -/
def frameOf (r : Response) (opening : Bool) (f : Fragment) : Frame :=
  let flags := if f.more then moreFragments else 0
  let checksum := Checksum.absent
  let body : HeldBody :=
    if opening then
      .callResponse
        { flags, code := r.code, tracing := r.tracing, headers := r.config.headers, checksum,
          args := f.chunks }
    else .callResponseCont { flags, checksum, args := f.chunks }
  Frame.make r.id body

def framesOf (r : Response) (opening : Bool) : List Fragment → List Frame
  | [] => []
  | first :: rest => r.frameOf opening first :: rest.map (r.frameOf false)

/-- What the first frame of a batch holds besides its chunks. -/
def preamble (r : Response) (opening : Bool) : Outcome Nat :=
  if opening then Outcome.ofExcept r.openingPreamble else .ok Fragment.contPreamble

def fragment (r : Response) (parts : List Bytes) (isLast opening : Bool) : Outcome (List Frame) := do
  let preamble ← r.preamble opening
  let fragments ← Fragment.ofParts r.config.maxBodySize preamble parts isLast
  return r.framesOf opening fragments

def transmit (r : Response) (f : Frame) : Answer Unit × Response :=
  match r.outlet.put? f with
  | some outlet => (.ok (), { r with outlet })
  | none => (.error (.refused .channelClosed), r)

/-- Sends a call frame, or parks it if others wait already or there is no credit for it. -/
def enqueue (r : Response) (f : Frame) : Answer Unit × Response :=
  match r.credits? with
  | none => r.transmit f
  | some c =>
      if r.backlog.isEmpty then
        match c.take? with
        | some c => { r with credits? := some c }.transmit f
        | none => (.ok (), { r with backlog := [f] })
      else (.ok (), { r with backlog := r.backlog ++ [f] })

/-- Parks frames behind those that wait already. -/
def park (r : Response) (frames : List Frame) : Response :=
  { r with backlog := r.backlog ++ frames }

/-- Whether every further call frame has to wait. -/
def isStalled (r : Response) : Bool := r.credits?.isSome && !r.backlog.isEmpty

/-- Sends or parks frames in order, up to the first that cannot be sent. -/
def enqueueAll (r : Response) : List Frame → Answer Unit × Response
  | [] => (.ok (), r)
  | f :: rest =>
      if r.isStalled then (.ok (), r.park (f :: rest))
      else
        match r.enqueue f with
        | (.ok (), r) => r.enqueueAll rest
        | (.error fault, r) => (.error fault, r)

theorem enqueue_stalled {r : Response} (h : r.isStalled = true) (f : Frame) :
    r.enqueue f = (.ok (), r.park [f]) := by
  unfold isStalled at h
  unfold enqueue park
  cases c : r.credits? with
  | none => simp [c] at h
  | some c => simp_all

theorem isStalled_park {r : Response} (h : r.isStalled = true) (frames : List Frame) :
    (r.park frames).isStalled = true := by
  simp_all [isStalled, park]

theorem park_append (r : Response) (front back : List Frame) :
    (r.park front).park back = r.park (front ++ back) := by
  simp [park]

theorem enqueueAll_stalled {r : Response} (h : r.isStalled = true) (frames : List Frame) :
    r.enqueueAll frames = (.ok (), r.park frames) := by
  cases frames with
  | nil => simp [enqueueAll, park]
  | cons f rest => rw [enqueueAll, if_pos h]

/-- Frames that come together fare as if they came one by one. -/
theorem enqueueAll_cons (r : Response) (f : Frame) (rest : List Frame) :
    r.enqueueAll (f :: rest) =
      match r.enqueue f with
      | (.ok (), r) => r.enqueueAll rest
      | (.error fault, r) => (.error fault, r) := by
  rw [enqueueAll]
  split
  · rename_i stalled
    rw [enqueue_stalled stalled]
    simp only [enqueueAll_stalled (isStalled_park stalled [f]), park_append, List.singleton_append]
  · rfl

/-- Sends a batch of argument parts, which completes the response if it is the last. -/
def sendParts (r : Response) (parts : List Bytes) (isLast : Bool) : Answer Unit × Response :=
  match r.ensureOpen "send call response frame" with
  | .error fault => (.error fault, r)
  | .ok () =>
      let opening := r.state = .initial
      match r.fragment parts isLast opening with
      | .error fault => (Answer.ofOutcome (.error fault), r)
      | .ok frames =>
          let r := if opening then { r with state := .started }.noteSend else r
          match r.enqueueAll frames with
          | (.error fault, r) => (.error fault, r.failTransport)
          | (.ok (), r) => (.ok (), if isLast then { r with state := .done } else r)

/-- Sends the frames that wait as far as there are credits. Adds the number of frames sent to
`sent`. -/
def release (r : Response) (sent : Nat) : List Frame → Answer Nat × Response
  | [] => (.ok sent, { r with backlog := [] })
  | f :: rest =>
      match r.credits?.bind Credits.take? with
      | none => (.ok sent, { r with backlog := f :: rest })
      | some c =>
          match { r with credits? := some c, backlog := rest }.transmit f with
          | (.ok (), r) => r.release (sent + 1) rest
          | (.error fault, r) => (.error fault, r.failTransport)

/-- Grants credits and sends what waits for them. Returns the number of frames sent. -/
def onDrain (r : Response) (granted : UInt32) : Answer Nat × Response :=
  match r.credits? with
  | none => (.ok 0, r)
  | some c => { r with credits? := some (c.grant granted) }.release 0 r.backlog

def errorAttempt (code : ErrorCode) (message : String) : String :=
  s!"send error frame: {code.name}: {message}"

def errorFrame (r : Response) (code : ErrorCode) (message : String) : Frame :=
  Frame.make r.id (.error (.detached ⟨code, r.tracing, message⟩))

/-- Ends the response by an error frame. Frames that wait for credit are dropped. -/
def sendError (r : Response) (code : ErrorCode) (message : String) : Answer Unit × Response :=
  match r.ensureOpen (errorAttempt code message) with
  | .error fault => (.error fault, r)
  | .ok () =>
      let r := { r.noteSend with state := .error, backlog := [] }
      let (sent, r) := r.transmit (r.errorFrame code message)
      (sent, (r.tell (.errored code message)).finish)

inductive Action where
  | setOk (ok : Bool)
  | sendParts (parts : List Bytes) (isLast : Bool)
  | sendError (code : ErrorCode) (message : String)
  | onDrain (granted : UInt32)
  | setCredits (credits : Credits)
  | setSpan (span : Span)
  | finish
  /-- Those who take the frames go away after this many more. -/
  | closeOutletAfter (n : Nat)

def step (r : Response) : Action → Answer Unit × Response
  | .setOk ok => r.setOk ok
  | .sendParts parts isLast => r.sendParts parts isLast
  | .sendError code message => r.sendError code message
  | .onDrain granted =>
      let (sent, r) := r.onDrain granted
      (sent.map fun _ => (), r)
  | .setCredits c => (.ok (), r.setCredits c)
  | .setSpan s => (.ok (), r.setSpan s)
  | .finish => (.ok (), r.finish)
  | .closeOutletAfter n => (.ok (), r.closeOutletAfter n)

/-- The response after some actions, whatever their answers. -/
def run (r : Response) (actions : List Action) : Response :=
  actions.foldl (fun r a => (r.step a).2) r

end Response

end CallWire
