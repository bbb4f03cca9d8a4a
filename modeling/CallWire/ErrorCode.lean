import CallWire.Bytes

/-!
# Error codes

The nine ways in which a remote call can fail, with the number, the name and the texts that stand
for each. Number and name both determine the code: `ofNumber?_number`, `ofName?_name`.
-/

namespace CallWire

inductive ErrorCode where
  | timeout
  | cancelled
  | busy
  | declined
  | unexpectedError
  | badRequest
  | networkError
  | unhealthy
  | protocolError
  deriving DecidableEq, Repr

namespace ErrorCode

/-- Every code, by ascending number. -/
def all : List ErrorCode :=
  [timeout, cancelled, busy, declined, unexpectedError, badRequest, networkError, unhealthy,
    protocolError]

/-- The number that stands for the code on the wire. Zero is never used. -/
def number : ErrorCode → UInt8
  | timeout => 0x01
  | cancelled => 0x02
  | busy => 0x03
  | declined => 0x04
  | unexpectedError => 0x05
  | badRequest => 0x06
  | networkError => 0x07
  | unhealthy => 0x08
  | protocolError => 0xff

def ofNumber? (n : UInt8) : Option ErrorCode := all.find? (·.number = n)

def name : ErrorCode → String
  | timeout => "Timeout"
  | cancelled => "Cancelled"
  | busy => "Busy"
  | declined => "Declined"
  | unexpectedError => "UnexpectedError"
  | badRequest => "BadRequest"
  | networkError => "NetworkError"
  | unhealthy => "Unhealthy"
  | protocolError => "ProtocolError"

def ofName? (s : String) : Option ErrorCode := all.find? (·.name = s)

/-- The stable text by which an application tells failures apart. -/
def kind : ErrorCode → String
  | timeout => "skein.timeout"
  | cancelled => "skein.cancelled"
  | busy => "skein.busy"
  | declined => "skein.declined"
  | unexpectedError => "skein.unexpected"
  | badRequest => "skein.bad-request"
  | networkError => "skein.network"
  | unhealthy => "skein.unhealthy"
  | protocolError => "skein.protocol"

/-- The message that stands in when the remote side sent an empty one. -/
def defaultMessage : ErrorCode → String
  | timeout => "skein timeout"
  | cancelled => "skein cancelled"
  | busy => "skein busy"
  | declined => "skein declined"
  | unexpectedError => "skein unexpected error"
  | badRequest => "skein bad request"
  | networkError => "skein network error"
  | unhealthy => "skein unhealthy"
  | protocolError => "skein protocol error"

/-- What a look-up by an unknown name reports. -/
def unknownNameMessage (s : String) : String := "Unknown error code name: " ++ s

theorem ofNumber?_number (c : ErrorCode) : ofNumber? c.number = some c := by
  cases c <;> rfl

theorem number_of_ofNumber? {n : UInt8} {c : ErrorCode} (h : ofNumber? n = some c) :
    c.number = n := by
  simpa using List.find?_some h

theorem ofName?_name (c : ErrorCode) : ofName? c.name = some c := by
  cases c <;> decide +kernel

end ErrorCode

end CallWire
