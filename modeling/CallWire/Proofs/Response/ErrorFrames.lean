import CallWire.Proofs.FrameRoundTrip
import CallWire.Proofs.Response.Delivery
import CallWire.Proofs.Response.Encoding

/-!
# Error frames on the wire

All of an error frame but its message has a fixed size. So it can be written exactly if the message
is not too long, and whoever reads it gets the error as it was sent (`sendError_reaches`). Nothing
looks at the size of a message when the error is sent: one that is too long is taken all the same,
and ends the response without a trace on the wire (`sendError_overlong`).
-/

namespace CallWire

theorem Text.size_replicate (n : Nat) : Text.size (String.ofList (List.replicate n 'a')) = n := by
  unfold Text.size
  induction n with
  | zero => rfl
  | succ n ih =>
    rw [List.replicate_succ', String.ofList_append, String.utf8ByteSize_append, ih]
    rfl

namespace ErrorResponse

/-- The longest message for which there is room in a frame. -/
def longestMessage : Nat := FrameLayout.maxBodySize - (1 + Tracing.width + Width.wide.bytes)

variable {e : ErrorResponse} {n : Nat}

theorem length_eq_ok_iff : e.length = .ok n ↔ Text.size e.message ≤ Width.wide.limit ∧
    n = 1 + Tracing.width + (Width.wide.bytes + Text.size e.message) := by
  unfold length TextField.length
  split
  · rename_i large
    have small : ¬ Text.size e.message ≤ Width.wide.limit := Nat.not_le.mpr large
    simp [small, bind, Except.bind]
  · rename_i small
    simp [Nat.not_lt.mp small, bind, Except.bind, pure, Except.pure, eq_comm]

end ErrorResponse

namespace Frame

/-- **An error frame can be encoded exactly if its message is not too long.** -/
theorem encode_error_iff (id : UInt32) (e : ErrorResponse) :
    (∃ bytes g, (make id (.error (.detached e))).encode = .ok (bytes, g)) ↔
      Text.size e.message ≤ ErrorResponse.longestMessage := by
  have measured : HeldBody.length (.error (.detached e)) = Outcome.ofExcept e.length := rfl
  -- the size of the header and of all that comes before the message
  have fixed : FrameLayout.overhead + (1 + Tracing.width + Width.wide.bytes) +
      ErrorResponse.longestMessage = FrameLayout.maxSize := rfl
  constructor
  · rintro ⟨bytes, g, encoded⟩
    obtain ⟨body, bs, held, -, length, small, -, -⟩ := encode_eq_ok_iff.mp encoded
    cases held
    rw [measured] at length
    obtain ⟨-, size⟩ := ErrorResponse.length_eq_ok_iff.mp (Outcome.ofExcept_eq_ok_iff.mp length)
    omega
  · intro short
    have counted : ErrorResponse.longestMessage ≤ Width.wide.limit := by decide
    have length := ErrorResponse.length_eq_ok_iff.mpr ⟨Nat.le_trans short counted, rfl⟩
    have takes : (make id (.error (.detached e))).Takes
        (1 + Tracing.width + (Width.wide.bytes + Text.size e.message)) :=
      ⟨_, rfl, Outcome.ofExcept_eq_ok_iff.mpr length, ErrorResponse.spells length⟩
    obtain ⟨g, encoded⟩ := takes.encode_ok (by omega)
    exact ⟨_, g, encoded⟩

end Frame

namespace Response

variable {r : Response}

/-- What becomes of an error that ends a response. -/
structure ErrorReaches (r : Response) (code : ErrorCode) (message : String) (s : Response) : Prop where
  ended : s.state = .error
  sent : s.outlet.sent = r.outlet.sent ++ [r.errorFrame code message]
  /-- The frame can be encoded exactly if the message is not too long. -/
  encodes : (∃ bytes g, (r.errorFrame code message).encode = .ok (bytes, g)) ↔
    Text.size message ≤ ErrorResponse.longestMessage
  /-- The error is read back from the bytes of the frame, wherever they stand. -/
  reads : ∀ bytes g, (r.errorFrame code message).encode = .ok (bytes, g) →
    ∀ (p : ConnectionPools) (front rest : Bytes), ∃ h k q,
      p.readFrame (front ++ bytes ++ rest) front.length = (.ok (front.length + bytes.length, h), q) ∧
        h.value? = some k ∧ k.id = r.id ∧ k.body?.map HeldBody.contents = some (.error
          (some ⟨code, (r.span?.map (·.tracing)).getD Tracing.empty, message⟩))

/-- **An error reaches the wire if its message is not too long.** -/
theorem sendError_reaches (live : r.state.isTerminal = false) (isOpen : r.outlet.isOpen = true)
    (code : ErrorCode) (message : String) :
    ∃ s, r.sendError code message = (.ok (), s) ∧ ErrorReaches r code message s := by
  have sent := errorSent r code message
  generalize r.sendError code message = result at sent
  cases sent with
  | ended terminal => exact absurd (terminal.symm.trans live) (by simp)
  | lost live closed => exact absurd (isOpen.symm.trans closed) (by simp)
  | @sent o live isOpen taken =>
    have k := keeps_finish ({ r.noteSend with state := .error, backlog := [], outlet := o }.tell
      (.errored code message))
    refine ⟨_, rfl, k.state, k.sent.trans taken, Frame.encode_error_iff r.id _, ?_⟩
    intro bytes g encoded p front rest
    have held : (r.errorFrame code message).body? =
        some (.error (.detached ⟨code, r.tracing, message⟩)) := rfl
    obtain ⟨h, k, q, read, holds, id, -, body⟩ :=
      Frame.readFrame_encode held trivial encoded p front rest
    exact ⟨h, k, q, read, holds, id, body⟩

/-- A traced response that has sent an argument in part. -/
def underWay : Response :=
  (((fresh 7 .default).setSpan ⟨.ofBytes [1, 2, 3], []⟩).sendParts [[], [4, 5]] false).2

theorem sendError_reaches_underWay : underWay.state.isTerminal = false ∧
    underWay.outlet.isOpen = true ∧ underWay.outlet.sent.length = 1 ∧
    Text.size "überlastet" ≤ ErrorResponse.longestMessage ∧
    ∃ s, underWay.sendError .busy "überlastet" = (.ok (), s) ∧
      ErrorReaches underWay .busy "überlastet" s := by
  have live : underWay.state.isTerminal = false := by decide +kernel
  have isOpen : underWay.outlet.isOpen = true := by decide +kernel
  refine ⟨live, isOpen, ?_, ?_, sendError_reaches live isOpen .busy "überlastet"⟩
  · decide +kernel
  · decide +kernel

/-- A message that is too long by one byte. -/
def overlong : String := String.ofList (List.replicate (ErrorResponse.longestMessage + 1) 'a')

/-- An error is taken, ends the response and is told, although its frame cannot be encoded. -/
theorem sendError_overlong : ∃ r s, make 1 .default = .ok r ∧ r.state.isTerminal = false ∧
    r.outlet.isOpen = true ∧ r.sendError .unexpectedError overlong = (.ok (), s) ∧
    s.state = .error ∧ s.events = [.errored .unexpectedError overlong, .finished] ∧
    s.outlet.sent = [r.errorFrame .unexpectedError overlong] ∧
    ∀ bytes g, (r.errorFrame .unexpectedError overlong).encode ≠ .ok (bytes, g) := by
  refine ⟨fresh 1 .default, _, rfl, rfl, rfl, rfl, rfl, rfl, rfl, ?_⟩
  intro bytes g encoded
  have short := (Frame.encode_error_iff 1 _).mp ⟨bytes, g, encoded⟩
  have long : Text.size overlong = ErrorResponse.longestMessage + 1 := Text.size_replicate _
  exact absurd (long ▸ short) (Nat.not_succ_le_self _)

end Response

end CallWire
