import CallWire.Bytes

/-!
# Frame types

The eleven kinds of frame. A type is one byte on the wire; `ofNumber?` knows exactly the bytes
that `number` gives (`ofNumber?_number`, `number_of_ofNumber?`).
-/

namespace CallWire

inductive FrameType where
  | initRequest
  | initResponse
  | callRequest
  | callResponse
  | callRequestCont
  | callResponseCont
  | cancel
  | claim
  | pingRequest
  | pingResponse
  | errorResponse
  deriving DecidableEq, Repr

namespace FrameType

/-- Every type, by ascending number. -/
def all : List FrameType :=
  [initRequest, initResponse, callRequest, callResponse, callRequestCont, callResponseCont,
    cancel, claim, pingRequest, pingResponse, errorResponse]

/-- The byte that stands for the type on the wire. -/
def number : FrameType → UInt8
  | initRequest => 0x01
  | initResponse => 0x02
  | callRequest => 0x03
  | callResponse => 0x04
  | callRequestCont => 0x13
  | callResponseCont => 0x14
  | cancel => 0xc0
  | claim => 0xc1
  | pingRequest => 0xd0
  | pingResponse => 0xd1
  | errorResponse => 0xff

def ofNumber? (n : UInt8) : Option FrameType := all.find? (·.number = n)

def name : FrameType → String
  | initRequest => "init req"
  | initResponse => "init res"
  | callRequest => "call req"
  | callResponse => "call res"
  | callRequestCont => "call req cont"
  | callResponseCont => "call res cont"
  | cancel => "cancel"
  | claim => "claim"
  | pingRequest => "ping req"
  | pingResponse => "ping res"
  | errorResponse => "error"

/-- Whether frames of this type belong to one call, so that an error in their body is reported
with the frame's id. -/
def isCall : FrameType → Bool
  | initRequest | initResponse | pingRequest | pingResponse => false
  | callRequest | callResponse | callRequestCont | callResponseCont | cancel | claim
  | errorResponse => true

theorem ofNumber?_number (t : FrameType) : ofNumber? t.number = some t := by
  cases t <;> rfl

theorem number_of_ofNumber? {n : UInt8} {t : FrameType} (h : ofNumber? n = some t) :
    t.number = n := by
  simpa using List.find?_some h

end FrameType

end CallWire
