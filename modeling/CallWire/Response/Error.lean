import CallWire.ArgStream
import CallWire.Response.Config
import CallWire.Response.State

/-!
# Errors of responses

Why an operation on a response is refused, and what the response tells its observer.
-/

namespace CallWire

inductive ResponseError where
  | alreadyStarted (state : ResponseState)
  | alreadyDone (attempted : String)
  | arg1Reserved
  | argStream (error : ArgStreamError)
  | channelClosed
  | frame (error : FrameError)
  | config (error : ConfigError)
  deriving DecidableEq

def ResponseError.message : ResponseError → String
  | alreadyStarted state => "response already started (state: " ++ state.name ++ ")"
  | alreadyDone attempted => "response already done, attempted to " ++ attempted
  | arg1Reserved => "arg1 carries the response status and cannot be written"
  | argStream e => "argument stream error: " ++ e.message
  | channelClosed => "outbound frame channel closed"
  | frame e => "frame error: " ++ e.message
  | config e => "invalid response config: " ++ e.message

abbrev Answer := Except (Fault ResponseError)

def Answer.ofOutcome {α : Type} (o : Outcome α) : Answer α := o.mapError (Fault.map .frame)

/-- What a response tells its observer. -/
inductive ResponseEvent where
  /-- An error frame took the place of the rest of the response. -/
  | errored (code : ErrorCode) (message : String)
  /-- The response has ended. Nothing is told after that. -/
  | finished
  | argError (error : ArgStreamError)
  deriving DecidableEq

end CallWire
