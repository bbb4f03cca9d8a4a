import CallWire.Frame.Writing
import CallWire.Proofs.Decoding
import CallWire.Proofs.WireBodies

/-!
# Frames written back

A frame that was read can be encoded, in no more bytes than it declared. There are three ways for a
decoded frame to forget bytes, and none of them makes up for another: a frame is written back as it
stood exactly if its reserved bytes are zero, its header map repeats no key, and nothing stands
behind its body (`Frame.encode_readFrame`).
-/

namespace CallWire

/-- A body that was read can be written, in no more bytes than it was read from; in the same bytes
exactly if no key was repeated there. -/
theorem Body.written_of_read {type : FrameType} {b : Body ErrorResponse} {c d : Cursor}
    (inside : c.beyond = false) (read : Body.read type c = .ok (b, d)) :
    ∃ pairs e stood bs, readPairs type c = .ok (pairs, e) ∧ c.ahead = stood ++ d.ahead ∧
      d.pos = c.pos + stood.length ∧ b.pairs = (Headers.collect pairs).entries ∧
      Segment.bytes? b.segments = some bs ∧ b.length = .ok bs.length ∧
      bs.length ≤ stood.length ∧ (bs = stood ↔ (pairs.map (·.1)).Nodup) := by
  obtain ⟨raw, e, -, rfl, pairs, stood, spelled, -, ahead, stop⟩ := read_spans inside read
  obtain ⟨_, ⟨bs, written, rfl⟩, less, distinct⟩ := merge_spells ⟨stood, spelled, rfl⟩
  refine ⟨raw.pairs, e, stood, bs, pairs, ahead, congrArg Cursor.pos stop, raw.pairs_merge,
    written, length_of_spells ⟨bs, written, rfl⟩, less, ?_⟩
  rw [← distinctHeaders_iff]
  constructor
  · intro same
    exact distinct (congrArg List.length same)
  · intro nodup
    rw [merge_of_distinct nodup, spelled] at written
    exact (Option.some.inj written).symm

/-- A header and a body that are no longer than the bytes they were read from are those bytes only
if nothing was lost: no reserved byte, nothing of the body and nothing behind it. -/
theorem FrameHeader.bytes_append_eq_iff {h : FrameHeader} {view bs stood rest : Bytes}
    (parsed : parse view = .ok h) (whole : view.length = h.size.toNat)
    (behind : view.drop FrameLayout.overhead = stood ++ rest) (less : bs.length ≤ stood.length) :
    { h with size := UInt16.ofNat (FrameLayout.overhead + bs.length) : FrameHeader }.bytes ++ bs =
        view ↔ reserved view = Bytes.zeros 9 ∧ bs = stood ∧ rest = [] := by
  obtain ⟨large, -⟩ := parse_eq_ok_iff.mp parsed
  have room : FrameLayout.overhead ≤ view.length := whole ▸ large
  have cut := List.take_append_drop FrameLayout.overhead view
  have lengths := congrArg List.length behind
  rw [List.length_drop, List.length_append] at lengths
  -- of the same length, they have the same size field
  have size (same : FrameLayout.overhead + bs.length = view.length) :
      { h with size := UInt16.ofNat (FrameLayout.overhead + bs.length) : FrameHeader } = h := by
    rw [same, whole, UInt16.ofNat_toNat]
  constructor
  · intro same
    have total := congrArg List.length same
    rw [List.length_append, length_bytes] at total
    rw [size total, ← cut, behind] at same
    obtain ⟨front, back⟩ := List.append_inj same
      (by rw [length_bytes, List.length_take, Nat.min_eq_left room])
    have nothing : rest = [] := List.eq_nil_of_length_eq_zero (by omega)
    exact ⟨(bytes_eq_iff parsed room).mp front, by rw [back, nothing, List.append_nil], nothing⟩
  · rintro ⟨zero, rfl, rfl⟩
    rw [List.length_nil] at lengths
    rw [size (by omega), (bytes_eq_iff parsed room).mpr zero]
    rw [List.append_nil] at behind
    rw [← behind, cut]

namespace Frame

/-- A frame with a body of the type that its header names is encoded as that header, with the size
that the body takes, and the body. -/
theorem exists_encode_pooled {header : FrameHeader} {b : Body ErrorResponse} {bs : Bytes}
    (type : b.frameType = header.type) (written : Segment.bytes? b.segments = some bs)
    (length : b.length = .ok bs.length)
    (fits : FrameLayout.overhead + bs.length ≤ FrameLayout.maxSize) :
    ∃ sized, encode ⟨header.size, header.id, some (.pooled b)⟩ = .ok
      ({ header with size := UInt16.ofNat (FrameLayout.overhead + bs.length) : FrameHeader }.bytes
        ++ bs, sized) := by
  refine ⟨_, encode_eq_ok_iff.mpr ⟨.pooled b, bs, rfl, ?_, ?_, fits, ?_, rfl⟩⟩
  · rw [HeldBody.segments_pooled, written]
  · rw [HeldBody.length_pooled, length]
    rfl
  · rw [headerFor, HeldBody.frameType_pooled, type]

/-- **A frame that was read can be encoded, and is canonical up to three things.** The bytes it is
encoded as are no more than it declared, and are those it was read from exactly if the reserved
bytes of its header are zero, the pairs of its header map, as they stand on the wire, have distinct
keys, and its body was read up to the end of the frame. -/
theorem encode_readFrame {p q : ConnectionPools} {buf : Bytes} {offset stop : Nat}
    {h : Pooled Frame} (read : p.readFrame buf offset = (.ok (stop, h), q)) :
    ∃ header body pairs pairsStop bodyStop bytes written,
      FrameHeader.read buf offset = .ok header ∧ stop = offset + header.size.toNat ∧
      (Body.readPairs header.type).runAt (buf.take stop) (offset + FrameLayout.bodyOffset) =
        .ok (pairsStop, pairs) ∧
      (p.readBody header.type (buf.take stop) (offset + FrameLayout.bodyOffset)).1 =
        .ok (bodyStop, body) ∧
      h.value? = some ⟨header.size, header.id, some body⟩ ∧
      body.pairs = (Headers.collect pairs).entries ∧
      encode ⟨header.size, header.id, some body⟩ = .ok (bytes, written) ∧
      bytes.length ≤ header.size.toNat ∧
      (bytes = (buf.take stop).drop offset ↔
        FrameHeader.reserved ((buf.take stop).drop offset) = Bytes.zeros 9 ∧
        (pairs.map (·.1)).Nodup ∧ bodyStop = stop) := by
  obtain ⟨inside, header, bodyStop, b, parsed, rfl, hbody, rfl⟩ :=
    ConnectionPools.readFrame_eq_ok_iff.mp (congrArg Prod.fst read)
  obtain ⟨large, declared, -⟩ := FrameHeader.parse_eq_ok_iff.mp parsed
  have cut := FrameHeader.drop_take_eq_frameAt declared
  have whole := FrameHeader.length_frameAt inside
  have ends := inside.2
  rw [declared] at whole ends
  have start : (Cursor.openAt (buf.take (offset + header.size.toNat))
      (offset + FrameLayout.bodyOffset)).beyond = false := by
    apply Cursor.inside_openAt
    rw [List.length_take, FrameLayout.bodyOffset]
    omega
  obtain ⟨c, hread, rfl⟩ := Reader.runAt_eq_ok_iff.mp hbody
  obtain ⟨pairs, e, stood, bs, hpairs, ahead, stop, held, written, length, less, same⟩ :=
    Body.written_of_read start hread
  have behind : (FrameHeader.frameAt buf offset).drop FrameLayout.overhead = stood ++ c.ahead := by
    rw [← cut]
    exact ahead
  have total := congrArg List.length behind
  rw [List.length_drop, List.length_append, whole] at total
  have view : FrameHeader.parse (FrameHeader.frameAt buf offset) = .ok header := by
    rw [FrameHeader.frameAt, FrameHeader.parse_take (declared ▸ large), parsed]
  have type : b.frameType = header.type := Body.frameType_of_read hread
  have fits : FrameLayout.overhead + bs.length ≤ FrameLayout.maxSize := by
    have := header.size.toNat_lt
    simp only [FrameLayout.maxSize]
    omega
  obtain ⟨sized, encoded⟩ := exists_encode_pooled type written length fits
  refine ⟨header, .pooled b, pairs, e.pos, c.pos, _, sized, ?_, rfl, ?_, ?_, rfl, ?_, encoded,
    ?_, ?_⟩
  · rw [FrameHeader.read_eq_parse inside, parsed]
  · exact Reader.runAt_eq_ok_iff.mpr ⟨e, hpairs, rfl⟩
  · rw [ConnectionPools.readBody_fst, hbody]
    rfl
  · rw [← held]
    cases b <;> rfl
  · rw [List.length_append, FrameHeader.length_bytes]
    omega
  · have here := cut 0
    rw [Nat.add_zero, List.drop_zero] at here
    rw [here, FrameHeader.bytes_append_eq_iff view whole behind less, same,
      ← List.length_eq_zero_iff]
    simp only [Cursor.openAt, FrameLayout.bodyOffset] at stop
    rw [stop]
    constructor
    · rintro ⟨zero, distinct, left⟩
      exact ⟨zero, distinct, by omega⟩
    · rintro ⟨zero, distinct, last⟩
      exact ⟨zero, distinct, by omega⟩

/-- A claim with a byte in front of it, a byte behind its body, and a reserved byte that is not
zero. -/
def paddedClaim : Bytes :=
  [1] ++ [0, 46, FrameType.claim.number, 7, 0, 0, 0, 5] ++ Bytes.zeros 8 ++ [0, 0, 1, 0] ++
    Bytes.zeros Tracing.width ++ [9]

theorem encode_readFrame_paddedClaim :
    ∃ h q frame bytes written,
      ConnectionPools.empty.readFrame paddedClaim 1 = (.ok (47, h), q) ∧ h.value? = some frame ∧
      frame.encode = .ok (bytes, written) ∧ bytes ≠ (paddedClaim.take 47).drop 1 := by
  have read : ∃ h q, ConnectionPools.empty.readFrame paddedClaim 1 = (.ok (47, h), q) :=
    ⟨_, _, rfl⟩
  obtain ⟨h, q, read⟩ := read
  obtain ⟨_, _, _, _, _, bytes, written, -, -, -, -, held, -, encoded, -, same⟩ :=
    encode_readFrame read
  refine ⟨h, q, _, bytes, written, read, held, encoded, fun equal => ?_⟩
  exact absurd (same.mp equal).1 (by decide)

end Frame

end CallWire
