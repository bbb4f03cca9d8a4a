import CallWire.Response

/-!
# Streaming responses

A streaming response takes its arguments piece by piece. It keeps them in an argument stream and
sends every batch that the stream hands out. The first argument stands for the status and is closed
when the status is set; the second and third are the application's.
-/

namespace CallWire

structure StreamingResponse where
  core : Response
  args : ArgStream
  /-- What the argument stream has reported and has not been dealt with. -/
  queue : List ArgEvent

namespace StreamingResponse

def make (id : UInt32) (config : ResponseConfig) : Answer StreamingResponse := do
  let core ← Response.make id config
  return { core, args := .empty, queue := [] }

def mapCore (s : StreamingResponse) (f : Response → Response) : StreamingResponse :=
  { s with core := f s.core }

/-- Performs an action on the argument stream and queues what it reports. -/
def argAction (s : StreamingResponse) (a : ArgStream.Action) : StreamingResponse :=
  let (args, events) := s.args.step a
  { s with args, queue := s.queue ++ events }

/-- Gives up the arguments of a response that has failed. -/
def settle (s : StreamingResponse) : StreamingResponse :=
  if s.core.state = .error then { s with args := s.args.finishAll } else s

def handle (r : Response) : ArgEvent → Answer Unit × Response
  | .parts chunks isLast => r.sendParts chunks isLast
  | .error e => (.error (.refused (.argStream e)), r.tell (.argError e))
  | .finish => (.ok (), r.finish)

/-- Deals with reports in order, all of them, and answers with the first failure. -/
def handleAll (r : Response) (answer : Answer Unit) : List ArgEvent → Answer Unit × Response
  | [] => (answer, r)
  | e :: rest =>
      let (next, r) := handle r e
      handleAll r (match answer with | .ok () => next | .error fault => .error fault) rest

def pump (s : StreamingResponse) : Answer Unit × StreamingResponse :=
  let (answer, core) := handleAll s.core (.ok ()) s.queue
  (answer, { s with core, queue := [] }.settle)

def act (s : StreamingResponse) (actions : List ArgStream.Action) :
    Answer Unit × StreamingResponse :=
  (actions.foldl argAction s).pump

/-- Sets the status and closes the first argument. -/
def setOk (s : StreamingResponse) (ok : Bool) : Answer Unit × StreamingResponse :=
  match s.core.setOk ok with
  | (.error fault, core) => (.error fault, { s with core })
  | (.ok (), core) => { s with core }.act [.endArg .arg1, .flush]

/-- Refuses what is attempted on a response that has ended, and otherwise acts on the arguments. -/
def actIfOpen (s : StreamingResponse) (attempted : String) (actions : List ArgStream.Action) :
    Answer Unit × StreamingResponse :=
  match s.core.ensureOpen attempted with
  | .error fault => (.error fault, s)
  | .ok () => s.act actions

/-- Writes a chunk to the second or the third argument. -/
def write (s : StreamingResponse) (arg : ArgIndex) (chunk : Bytes) :
    Answer Unit × StreamingResponse :=
  if arg = .arg1 then (.error (.refused .arg1Reserved), s)
  else s.actIfOpen ("write " ++ arg.name) [.write arg chunk, .flush]

/-- Ends the second or the third argument. The end of the third completes the response. -/
def endArg (s : StreamingResponse) (arg : ArgIndex) : Answer Unit × StreamingResponse :=
  if arg = .arg1 then (.error (.refused .arg1Reserved), s)
  else s.actIfOpen ("end " ++ arg.name) [.endArg arg, .flush]

def send (s : StreamingResponse) (arg2 arg3 : Bytes) : Answer Unit × StreamingResponse :=
  s.actIfOpen "send response" [.write .arg2 arg2, .endArg .arg2, .write .arg3 arg3, .endArg .arg3]

/-- Ends the response by an error frame, whatever has been written. Nothing that the argument
stream has reported may still be waiting. -/
def sendError (s : StreamingResponse) (code : ErrorCode) (message : String) :
    Answer Unit × StreamingResponse :=
  match s.core.ensureOpen (Response.errorAttempt code message) with
  | .error fault => (.error fault, s)
  | .ok () =>
      let s := { s with args := s.args.finishAll }
      if s.queue.isEmpty then
        let (answer, core) := s.core.sendError code message
        (answer, { s with core })
      else (.error (.breach .unhandledEvent), s)

def onDrain (s : StreamingResponse) (granted : UInt32) : Answer Nat × StreamingResponse :=
  let (answer, core) := s.core.onDrain granted
  (answer, { s with core }.settle)

inductive Action where
  | setOk (ok : Bool)
  | write (arg : ArgIndex) (chunk : Bytes)
  | endArg (arg : ArgIndex)
  | send (arg2 arg3 : Bytes)
  | sendError (code : ErrorCode) (message : String)
  | onDrain (granted : UInt32)
  | setSpan (span : Span)
  /-- Those who take the frames go away after this many more. -/
  | closeOutletAfter (n : Nat)
  /-- Others who share the credits leave this count of them. -/
  | shareCredits (credits : Credits)

def step (s : StreamingResponse) : Action → Answer Unit × StreamingResponse
  | .setOk ok => s.setOk ok
  | .write arg chunk => s.write arg chunk
  | .endArg arg => s.endArg arg
  | .send arg2 arg3 => s.send arg2 arg3
  | .sendError code message => s.sendError code message
  | .onDrain granted =>
      let (sent, s) := s.onDrain granted
      (sent.map fun _ => (), s)
  | .setSpan span => (.ok (), s.mapCore (·.setSpan span))
  | .closeOutletAfter n => (.ok (), s.mapCore (·.closeOutletAfter n))
  | .shareCredits c => (.ok (), s.mapCore (·.setCredits c))

/-- The streaming response after some actions, whatever their answers. -/
def run (s : StreamingResponse) (actions : List Action) : StreamingResponse :=
  actions.foldl (fun s a => (s.step a).2) s

end StreamingResponse

end CallWire
