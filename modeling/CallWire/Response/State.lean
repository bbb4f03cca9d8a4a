/-!
# The life of a response

A response starts at `initial` and ends in `done` or in `error`, possibly without having been
`started`.
-/

namespace CallWire

inductive ResponseState where
  | initial
  | started
  | error
  | done
  deriving DecidableEq, Repr

namespace ResponseState

def isTerminal : ResponseState → Bool
  | initial | started => false
  | error | done => true

/-- The name in messages. -/
def name : ResponseState → String
  | initial => "initial"
  | started => "started"
  | error => "error"
  | done => "done"

/-- The name in exchanged data. -/
def tag : ResponseState → String
  | initial => "Initial"
  | started => "Started"
  | error => "Error"
  | done => "Done"

end ResponseState

end CallWire
