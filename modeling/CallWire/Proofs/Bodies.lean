import CallWire.Body
import CallWire.Proofs.Fields

/-!
# Bodies read back

Each of the eleven kinds of body is read back from what is written for it, up to the value of a
checksum without a type (`Body.canonical`). Header maps must not repeat a key, and the buffer must
end with the body, where call bodies end (`undoes_body`).
-/

namespace CallWire

theorem Handshake.undoes_handshake {h : Handshake} (nodup : h.headers.keys.Nodup) (rest : Bytes) :
    Undoes read h.segments rest h := by
  obtain ⟨version, headers⟩ := h
  unfold segments
  split
  · intro bs hbs
    cases hbs
  · rename_i complete
    apply Undoes.cons (undoes_word16 version)
    rw [← List.append_nil (headers.segments .wide)]
    apply Undoes.bind (Headers.undoes_headers .wide nodup)
    simp only [complete]
    exact .pure _ rest

namespace CallRequest

/-- The request with the checksum that is carried. -/
def canonical (r : CallRequest) : CallRequest := { r with checksum := r.checksum.canonical }

theorem undoes_callRequest {r : CallRequest} (nodup : r.headers.keys.Nodup) :
    Undoes read r.segments [] r.canonical := by
  show Undoes _ ([.byte r.flags, .word32 r.ttl, .tracing r.tracing] ++
    TextField.segments .narrow r.service ++ r.headers.segments .narrow ++ r.checksum.segments ++
    Chunks.segments r.args) [] _
  simp only [List.append_assoc]
  apply Undoes.cons (undoes_byte r.flags)
  apply Undoes.cons (undoes_word32 r.ttl)
  apply Undoes.cons (undoes_tracing r.tracing)
  apply Undoes.bind (undoes_text .narrow r.service)
  apply Undoes.bind (Headers.undoes_headers .narrow nodup)
  apply Undoes.bind (Checksum.undoes_checksum r.checksum)
  exact (Chunks.undoes_chunks r.args).bind_pure

end CallRequest

namespace CallResponse

/-- The response with the checksum that is carried. -/
def canonical (r : CallResponse) : CallResponse := { r with checksum := r.checksum.canonical }

theorem undoes_callResponse {r : CallResponse} (nodup : r.headers.keys.Nodup) :
    Undoes read r.segments [] r.canonical := by
  show Undoes _ ([.byte r.flags, .byte r.code, .tracing r.tracing] ++ r.headers.segments .narrow ++
    r.checksum.segments ++ Chunks.segments r.args) [] _
  simp only [List.append_assoc]
  apply Undoes.cons (undoes_byte r.flags)
  apply Undoes.cons (undoes_byte r.code)
  apply Undoes.cons (undoes_tracing r.tracing)
  apply Undoes.bind (Headers.undoes_headers .narrow nodup)
  apply Undoes.bind (Checksum.undoes_checksum r.checksum)
  exact (Chunks.undoes_chunks r.args).bind_pure

end CallResponse

namespace Continuation

/-- The fragment with the checksum that is carried. -/
def canonical (r : Continuation) : Continuation := { r with checksum := r.checksum.canonical }

theorem undoes_continuation (r : Continuation) : Undoes read r.segments [] r.canonical := by
  apply Undoes.cons (undoes_byte r.flags)
  apply Undoes.bind (Checksum.undoes_checksum r.checksum)
  exact (Chunks.undoes_chunks r.args).bind_pure

end Continuation

theorem Cancel.undoes_cancel (c : Cancel) (rest : Bytes) : Undoes read c.segments rest c := by
  apply Undoes.cons (undoes_word32 c.ttl)
  apply Undoes.cons (undoes_tracing c.tracing)
  exact (undoes_text .wide c.why rest).bind_pure

theorem Claim.undoes_claim (c : Claim) (rest : Bytes) : Undoes read c.segments rest c := by
  apply Undoes.cons (undoes_word32 c.ttl)
  exact (undoes_tracing c.tracing rest).bind_pure

theorem ErrorResponse.undoes_errorResponse (e : ErrorResponse) (rest : Bytes) :
    Undoes read e.segments rest e := by
  apply Undoes.cons (undoes_byte e.code.number)
  apply Undoes.cons (undoes_tracing e.tracing)
  rw [ErrorCode.ofNumber?_number]
  exact (undoes_text .wide e.message rest).bind_pure

namespace Body

variable {ε δ : Type}

/-- The body with the checksum that is carried. -/
def canonical : Body ε → Body ε
  | callRequest b => callRequest b.canonical
  | callResponse b => callResponse b.canonical
  | callRequestCont b => callRequestCont b.canonical
  | callResponseCont b => callResponseCont b.canonical
  | b => b

/-- No key of the body's header map is repeated, if it has one. -/
def DistinctHeaders : Body ε → Prop
  | initRequest b | initResponse b => b.headers.keys.Nodup
  | callRequest b => b.headers.keys.Nodup
  | callResponse b => b.headers.keys.Nodup
  | _ => True

theorem canonical_mapError (f : ε → δ) (b : Body ε) :
    (b.mapError f).canonical = b.canonical.mapError f := by
  cases b <;> rfl

theorem distinctHeaders_mapError (f : ε → δ) (b : Body ε) :
    (b.mapError f).DistinctHeaders ↔ b.DistinctHeaders := by
  cases b <;> exact Iff.rfl

/-- **A body is read back from what is written for it.** -/
theorem undoes_body {b : Body ErrorResponse} (distinct : b.DistinctHeaders) :
    Undoes (read b.frameType) b.segments [] b.canonical := by
  cases b with
  | initRequest b | initResponse b => exact (Handshake.undoes_handshake distinct []).map _
  | callRequest b => exact (CallRequest.undoes_callRequest distinct).map callRequest
  | callResponse b => exact (CallResponse.undoes_callResponse distinct).map callResponse
  | callRequestCont b | callResponseCont b => exact (Continuation.undoes_continuation b).map _
  | cancel b => exact (Cancel.undoes_cancel b []).map cancel
  | claim b => exact (Claim.undoes_claim b []).map claim
  | pingRequest => exact .pure pingRequest []
  | pingResponse => exact .pure pingResponse []
  | error b => exact (ErrorResponse.undoes_errorResponse b []).map error

end Body

end CallWire
