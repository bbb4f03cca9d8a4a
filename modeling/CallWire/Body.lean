import CallWire.Call
import CallWire.FrameType
import CallWire.Handshake
import CallWire.Notice

/-!
# Frame bodies

A body is one of eleven kinds, told apart by the type of its frame. The kind of an error response
leaves open how the error response is held: `Body ErrorResponse` has it at hand, and a frame holds
it through a handle of a pool.

For each kind there are three definitions, made apart from each other: its size (`length`), what is
written (`segments`) and how it is read (`read`).
-/

namespace CallWire

/-- The body of a frame, with error responses held as an `ε`. -/
inductive Body (ε : Type) where
  | initRequest (handshake : Handshake)
  | initResponse (handshake : Handshake)
  | callRequest (request : CallRequest)
  | callResponse (response : CallResponse)
  | callRequestCont (part : Continuation)
  | callResponseCont (part : Continuation)
  | cancel (notice : Cancel)
  | claim (notice : Claim)
  | pingRequest
  | pingResponse
  | error (response : ε)
  deriving DecidableEq

namespace Body

variable {ε δ : Type}

def frameType : Body ε → FrameType
  | initRequest _ => .initRequest
  | initResponse _ => .initResponse
  | callRequest _ => .callRequest
  | callResponse _ => .callResponse
  | callRequestCont _ => .callRequestCont
  | callResponseCont _ => .callResponseCont
  | cancel _ => .cancel
  | claim _ => .claim
  | pingRequest => .pingRequest
  | pingResponse => .pingResponse
  | error _ => .errorResponse

/-- Applies `f` to the error response, if the body is one. -/
def mapError (f : ε → δ) : Body ε → Body δ
  | initRequest b => initRequest b
  | initResponse b => initResponse b
  | callRequest b => callRequest b
  | callResponse b => callResponse b
  | callRequestCont b => callRequestCont b
  | callResponseCont b => callResponseCont b
  | cancel b => cancel b
  | claim b => claim b
  | pingRequest => pingRequest
  | pingResponse => pingResponse
  | error e => error (f e)

/-- Looks the error response up with `f`, if the body is one. -/
def mapErrorM {m : Type → Type} [Monad m] (f : ε → m δ) : Body ε → m (Body δ)
  | initRequest b => pure (initRequest b)
  | initResponse b => pure (initResponse b)
  | callRequest b => pure (callRequest b)
  | callResponse b => pure (callResponse b)
  | callRequestCont b => pure (callRequestCont b)
  | callResponseCont b => pure (callResponseCont b)
  | cancel b => pure (cancel b)
  | claim b => pure (claim b)
  | pingRequest => pure pingRequest
  | pingResponse => pure pingResponse
  | error e => do return error (← f e)

/-- The size of the body on the wire. -/
def length : Body ErrorResponse → Except FrameError Nat
  | initRequest b | initResponse b => b.length
  | callRequest b => b.length
  | callResponse b => b.length
  | callRequestCont b | callResponseCont b => b.length
  | cancel b => b.length
  | claim _ => .ok Claim.size
  | pingRequest | pingResponse => .ok 0
  | error b => b.length

/-- What the body writes. -/
def segments : Body ErrorResponse → List Segment
  | initRequest b | initResponse b => b.segments
  | callRequest b => b.segments
  | callResponse b => b.segments
  | callRequestCont b | callResponseCont b => b.segments
  | cancel b => b.segments
  | claim b => b.segments
  | pingRequest | pingResponse => []
  | error b => b.segments

/-- Reads the body of a frame of the given type. Call bodies go on to the end of the buffer. -/
def read : FrameType → Reader (Body ErrorResponse)
  | .initRequest => initRequest <$> Handshake.read
  | .initResponse => initResponse <$> Handshake.read
  | .callRequest => callRequest <$> CallRequest.read
  | .callResponse => callResponse <$> CallResponse.read
  | .callRequestCont => callRequestCont <$> Continuation.read
  | .callResponseCont => callResponseCont <$> Continuation.read
  | .cancel => cancel <$> Cancel.read
  | .claim => claim <$> Claim.read
  | .pingRequest => pure pingRequest
  | .pingResponse => pure pingResponse
  | .errorResponse => error <$> ErrorResponse.read

theorem frameType_mapError (f : ε → δ) (b : Body ε) : (b.mapError f).frameType = b.frameType := by
  cases b <;> rfl

end Body

end CallWire
