import CallWire.Frame.Reading
import CallWire.Proofs.Bodies
import CallWire.Proofs.FrameBytes

/-!
# Frames read back

A frame that was encoded is read back from its bytes, wherever they stand in a buffer and whatever
stands before and behind them (`readFrame_encode`).

* `FrameHeader.read_of_standsAt`: the header;
* `readBody_of_spelled`: the body, where the buffer ends with it.
-/

namespace CallWire

namespace FrameHeader

/-- The bytes of the header stand at `offset`. -/
def StandsAt (h : FrameHeader) (buf : Bytes) (offset : Nat) : Prop :=
  ∃ rest, buf.drop offset = h.bytes ++ rest

namespace StandsAt

variable {h : FrameHeader} {buf : Bytes} {offset : Nat}

theorem room (stands : h.StandsAt buf offset) : offset + FrameLayout.overhead ≤ buf.length := by
  obtain ⟨rest, stands⟩ := stands
  have lengths := congrArg List.length stands
  rw [List.length_drop, List.length_append, length_bytes] at lengths
  simp only [FrameLayout.overhead] at *
  omega

theorem size (stands : h.StandsAt buf offset) (large : FrameLayout.overhead ≤ h.size.toNat) :
    readSize.runAt buf offset = .ok (offset + 2, h.size) := by
  have room := stands.room
  obtain ⟨rest, stands⟩ := stands
  have undoes (rest : Bytes) : Undoes readSize [.word16 h.size] rest h.size := by
    apply Undoes.cons (undoes_word16 h.size)
    rw [if_neg (Nat.not_lt.mpr large)]
    exact .pure h.size rest
  rw [bytes, List.append_assoc] at stands
  have read := runAt_of_undoes (undoes _) (Segment.bytes?_number _ _) (by omega) stands
  rwa [Bytes.length_bigEndian] at read

theorem type (stands : h.StandsAt buf offset) :
    Reader.byte.runAt buf (offset + FrameLayout.typeOffset) = .ok (offset + 3, h.type.number) := by
  have room := stands.room
  obtain ⟨rest, stands⟩ := stands
  have behind : buf.drop (offset + FrameLayout.typeOffset) =
      [h.type.number] ++ ([0] ++ (Bytes.bigEndian 4 h.id.toNat ++ Bytes.zeros 8) ++ rest) := by
    rw [← List.drop_drop, stands, bytes, List.append_assoc, FrameLayout.typeOffset,
      List.drop_left' (Bytes.length_bigEndian _ _)]
    rfl
  have inside : offset + FrameLayout.typeOffset ≤ buf.length := by
    simp only [FrameLayout.overhead, FrameLayout.typeOffset] at *
    omega
  exact runAt_of_undoes (undoes_byte h.type.number _) (Segment.bytes?_put _) inside behind

theorem id (stands : h.StandsAt buf offset) :
    Reader.word32.runAt buf (offset + FrameLayout.idOffset) = .ok (offset + 8, h.id) := by
  have room := stands.room
  obtain ⟨rest, stands⟩ := stands
  have behind : buf.drop (offset + FrameLayout.idOffset) =
      Bytes.bigEndian 4 h.id.toNat ++ (Bytes.zeros 8 ++ rest) := by
    have front : (Bytes.bigEndian 2 h.size.toNat ++ [h.type.number, 0]).length = 4 := by
      simp [Bytes.length_bigEndian]
    rw [← List.drop_drop, stands, FrameLayout.idOffset, bytes, tail, ← List.append_assoc,
      ← List.append_assoc, List.append_assoc, List.append_assoc, List.drop_left' front]
  have inside : offset + FrameLayout.idOffset ≤ buf.length := by
    simp only [FrameLayout.overhead, FrameLayout.idOffset] at *
    omega
  have read := runAt_of_undoes (undoes_word32 h.id _) (Segment.bytes?_number _ _) inside behind
  rwa [Bytes.length_bigEndian] at read

end StandsAt

theorem typeOf_number (type : FrameType) : typeOf type.number = .ok type := by
  rw [typeOf, FrameType.ofNumber?_number]

theorem read_of_standsAt {h : FrameHeader} {buf : Bytes} {offset : Nat}
    (stands : h.StandsAt buf offset) (large : FrameLayout.overhead ≤ h.size.toNat) :
    read buf offset = .ok h := by
  have type : Reader.byte.runAt buf (offset + 2) = .ok (offset + 3, h.type.number) := stands.type
  simp only [read, stands.size large, type, typeOf_number, stands.id, bind, Except.bind, pure,
    Except.pure]

end FrameHeader

namespace HeldBody

/-- A body whose error response is at hand has just that as its contents. -/
theorem contents_of_live {body : HeldBody} {b : Body ErrorResponse} (live : body.live = .ok b) :
    body.contents = b.mapError some ∧ body.frameType = b.frameType := by
  cases body with
  | error h =>
    obtain ⟨e, he, hb⟩ := bind_eq_ok_iff.mp live
    cases hb
    unfold Pooled.get at he
    split at he
    · rename_i found
      cases he
      exact ⟨congrArg Body.error found, rfl⟩
    · cases he
  | _ =>
    cases live
    exact ⟨rfl, rfl⟩

theorem contents_ofBody (b : Body ErrorResponse) : (ofBody b).contents = b.mapError some := by
  cases b <;> rfl

/-- A body that has a string is at hand. -/
theorem live_of_spelled {body : HeldBody} {bs : Bytes}
    (spelled : Segment.bytes? body.segments = some bs) :
    ∃ b, body.live = .ok b ∧ Segment.bytes? b.segments = some bs := by
  unfold segments at spelled
  split at spelled
  · rename_i b live
    exact ⟨b, live, spelled⟩
  · cases spelled

theorem distinctHeaders_of_live {body : HeldBody} {b : Body ErrorResponse}
    (live : body.live = .ok b) (distinct : body.DistinctHeaders) : b.DistinctHeaders := by
  rw [← Body.distinctHeaders_mapError some, ← (contents_of_live live).1, contents,
    Body.distinctHeaders_mapError]
  exact distinct

end HeldBody

namespace ConnectionPools

/-- A body is read back where the buffer ends with its string. -/
theorem readBody_of_spelled {body : HeldBody} {bs buf : Bytes} {offset : Nat}
    (spelled : Segment.bytes? body.segments = some bs) (distinct : body.DistinctHeaders)
    (inside : offset ≤ buf.length) (stands : buf.drop offset = bs) (p : ConnectionPools) :
    ∃ held q, p.readBody body.frameType buf offset = (.ok (offset + bs.length, held), q) ∧
      held.contents = body.contents.canonical := by
  obtain ⟨b, live, spelled⟩ := HeldBody.live_of_spelled spelled
  obtain ⟨same, type⟩ := HeldBody.contents_of_live live
  rw [same, type, Body.canonical_mapError]
  rw [← List.append_nil bs] at stands
  cases b with
  | error e =>
    have read := runAt_of_undoes (ErrorResponse.undoes_errorResponse e []) spelled inside stands
    refine ⟨.error { p.takeError.1 with value? := some e }, p.takeError.2, ?_, rfl⟩
    simp only [Body.frameType, readBody, read]
  | _ =>
    have undone := Body.undoes_body (HeldBody.distinctHeaders_of_live live distinct)
    have read := runAt_of_undoes undone spelled inside stands
    refine ⟨_, p, ?_, HeldBody.contents_ofBody _⟩
    simp only [Body.frameType, readBody] at read ⊢
    rw [read]

end ConnectionPools

namespace Frame

/-- The header that a frame is encoded with tells its size. -/
theorem size_headerFor (f : Frame) (body : HeldBody) {bs : Bytes}
    (small : FrameLayout.overhead + bs.length ≤ FrameLayout.maxSize) :
    (f.headerFor body bs).size.toNat = FrameLayout.overhead + bs.length := by
  have fits : FrameLayout.overhead + bs.length < 2 ^ 16 := Nat.lt_succ_of_le small
  show (UInt16.ofNat (FrameLayout.overhead + bs.length)).toNat = _
  rw [UInt16.toNat_ofNat', Nat.mod_eq_of_lt fits]

/-- **A frame is read back from the bytes it was encoded as,** wherever they stand in a buffer. The
body that is read equals the one that was written, up to the value of a checksum without a type. -/
theorem readFrame_encode {f g : Frame} {body : HeldBody} {bytes : Bytes}
    (held : f.body? = some body) (distinct : body.DistinctHeaders)
    (encoded : f.encode = .ok (bytes, g)) (p : ConnectionPools) (front rest : Bytes) :
    ∃ h k q, p.readFrame (front ++ bytes ++ rest) front.length =
        (.ok (front.length + bytes.length, h), q) ∧
      h.value? = some k ∧ k.id = f.id ∧ k.size.toNat = bytes.length ∧
      k.body?.map HeldBody.contents = some body.contents.canonical := by
  obtain ⟨body', bs, held', spelled, -, small, made, -⟩ := encode_eq_ok_iff.mp encoded
  rw [held, Option.some.injEq] at held'
  subst held'
  have size := size_headerFor f body small
  have length : bytes.length = (f.headerFor body bs).size.toNat := by
    rw [made, size, List.length_append, FrameHeader.length_bytes]
  have header : FrameHeader.read (front ++ bytes ++ rest) front.length =
      .ok (f.headerFor body bs) := by
    refine FrameHeader.read_of_standsAt ⟨bs ++ rest, ?_⟩ (by omega)
    rw [List.append_assoc, List.drop_left, made, List.append_assoc]
  have complete : Bytes.covers (front.length + (f.headerFor body bs).size.toNat)
      (front ++ bytes ++ rest) = true := by
    rw [Bytes.covers_iff, ← length, List.length_append, List.length_append]
    exact Nat.le_add_right _ _
  have frame : (front ++ bytes ++ rest).take (front.length + (f.headerFor body bs).size.toNat) =
      front ++ bytes := by
    rw [← length, ← List.length_append, List.take_left]
  have inside : front.length + FrameLayout.bodyOffset ≤ (front ++ bytes).length := by
    rw [List.length_append, length, size, FrameLayout.bodyOffset]
    omega
  have behind : (front ++ bytes).drop (front.length + FrameLayout.bodyOffset) = bs := by
    rw [← List.drop_drop, List.drop_left, FrameLayout.bodyOffset, made,
      List.drop_left' (FrameHeader.length_bytes _)]
  obtain ⟨read, q, done, contents⟩ := p.readBody_of_spelled spelled distinct inside behind
  refine ⟨{ q.takeFrame.1 with value? := some ⟨(f.headerFor body bs).size, f.id, some read⟩ },
    _, q.takeFrame.2, ?_, rfl, rfl, length.symm, congrArg some contents⟩
  unfold ConnectionPools.readFrame
  rw [header]
  simp only [if_pos complete, frame]
  rw [show (f.headerFor body bs).type = body.frameType from rfl, done, length]
  rfl

/-- A request with two headers, an empty chunk, and a checksum value that is not written. -/
def sampleRequest : HeldBody :=
  .callRequest {
    flags := moreFragments
    ttl := 500
    tracing := Tracing.empty
    service := "s"
    headers := ⟨[("a", "x"), ("b", "")]⟩
    checksum := ⟨.none, 7⟩
    args := [[1], [], [2, 3]] }

theorem readFrame_encode_sampleRequest :
    ∃ bytes g, (make 5 sampleRequest).encode = .ok (bytes, g) ∧ sampleRequest.DistinctHeaders ∧
      ∃ h k q, ConnectionPools.empty.readFrame ([7] ++ bytes ++ [8, 9]) 1 =
          (.ok (1 + bytes.length, h), q) ∧
        h.value? = some k ∧ k.id = 5 ∧ k.size.toNat = bytes.length ∧
        k.body?.map HeldBody.contents = some sampleRequest.contents.canonical := by
  have distinct : sampleRequest.DistinctHeaders := by
    show ["a", "b"].Nodup
    decide
  exact ⟨_, _, rfl, distinct,
    readFrame_encode (f := make 5 sampleRequest) rfl distinct rfl ConnectionPools.empty [7] [8, 9]⟩

end Frame

end CallWire
