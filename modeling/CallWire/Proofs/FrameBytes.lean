import CallWire.Frame.Reading
import CallWire.Frame.Writing
import CallWire.Proofs.Segments

/-!
# The bytes of a frame

A frame that can be encoded is the bytes of its header followed by the string of its body
(`encode_eq_ok_iff`). Appending it to a buffer appends the same bytes (`encodeInto_of_encode`).
-/

namespace CallWire

namespace FrameHeader

/-- What stands behind the size field. -/
def tail (type : FrameType) (id : UInt32) : Bytes :=
  [type.number, 0] ++ (Bytes.bigEndian 4 id.toNat ++ Bytes.zeros 8)

/-- The sixteen bytes of a header. -/
def bytes (h : FrameHeader) : Bytes := Bytes.bigEndian 2 h.size.toNat ++ tail h.type h.id

theorem length_tail (type : FrameType) (id : UInt32) : (tail type id).length = 14 := by
  simp [tail, Bytes.length_bigEndian, Bytes.length_zeros]

theorem length_bytes (h : FrameHeader) : h.bytes.length = FrameLayout.overhead := by
  simp [bytes, Bytes.length_bigEndian, length_tail, FrameLayout.overhead]

end FrameHeader

namespace Frame

theorem bytes?_segments_eq_some_iff {id : UInt32} {body : HeldBody} {all : Bytes} :
    Segment.bytes? (segments id body) = some all ↔
      ∃ bs, Segment.bytes? body.segments = some bs ∧
        all = FrameHeader.tail body.frameType id ++ bs := by
  have header : Segment.bytes? [.byte body.frameType.number, .byte 0, .word32 id, .zeros 8] =
      some (FrameHeader.tail body.frameType id) := by
    simp [Segment.bytes?, Segment.byte, Segment.word32, Segment.number, FrameHeader.tail]
  rw [segments, Segment.bytes?_append, header, Option.bind_some, Option.map_eq_some_iff]
  simp only [eq_comm]

/-- The header of the frame when its body is written as `bs`. -/
def headerFor (f : Frame) (body : HeldBody) (bs : Bytes) : FrameHeader where
  size := UInt16.ofNat (FrameLayout.overhead + bs.length)
  type := body.frameType
  id := f.id

theorem body_eq_ok_iff {f : Frame} {body : HeldBody} : f.body = .ok body ↔ f.body? = some body := by
  unfold Frame.body
  cases f.body? with
  | none => simp [refuse]
  | some b => simp

theorem measure_eq_ok_iff {f : Frame} {n : Nat} :
    f.measure = .ok n ↔ ∃ body len, f.body? = some body ∧ body.length = .ok len ∧
      n = FrameLayout.overhead + len ∧ n ≤ FrameLayout.maxSize := by
  unfold measure length
  constructor
  · intro h
    obtain ⟨m, hm, h⟩ := bind_eq_ok_iff.mp h
    obtain ⟨body, held, hm⟩ := bind_eq_ok_iff.mp hm
    obtain ⟨len, hlen, hm⟩ := bind_eq_ok_iff.mp hm
    cases hm
    split at h
    · cases h
    · rename_i small
      cases h
      exact ⟨body, len, body_eq_ok_iff.mp held, hlen, rfl, Nat.not_lt.mp small⟩
  · rintro ⟨body, len, held, hlen, rfl, small⟩
    simp [body_eq_ok_iff.mpr held, hlen, bind, Except.bind, pure, Except.pure, Nat.not_lt.mpr small]

/-- The size is put over the two bytes in front of the rest of the frame. -/
theorem writeAt_size (size : UInt16) (front rest : Bytes) {gap : Bytes} (two : gap.length = 2) :
    CallWire.writeAt [.word16 size] (front ++ (gap ++ rest))
        (front.length + FrameLayout.sizeOffset) =
      (front ++ (Bytes.bigEndian 2 size.toNat ++ rest), .ok (front.length + 2)) := by
  have same : (Bytes.bigEndian 2 size.toNat).length = gap.length :=
    (Bytes.length_bigEndian _ _).trans two.symm
  have inside : front.length ≤ (front ++ (gap ++ rest)).length := by
    rw [List.length_append]
    exact Nat.le_add_right _ _
  refine (writeAt_eq_ok_iff inside).mpr ⟨_, Segment.bytes?_number _ _, ?_, ?_, ?_⟩
  · rw [same, List.length_append, List.length_append]
    omega
  · rw [same, List.take_left, ← List.drop_drop, List.drop_left, List.drop_left, List.append_assoc]
  · rw [same, two]

/-- A frame with room for it replaces as many bytes of a buffer as it takes, whatever they were. -/
theorem writeAt_of_spelled {f : Frame} {body : HeldBody} {bs buf : Bytes} {offset : Nat}
    (held : f.body? = some body) (spelled : Segment.bytes? body.segments = some bs)
    (room : offset + (FrameLayout.overhead + bs.length) ≤ buf.length)
    (small : FrameLayout.overhead + bs.length ≤ FrameLayout.maxSize) :
    f.writeAt buf offset =
      (buf.take offset ++ ((f.headerFor body bs).bytes ++ bs) ++
          buf.drop (offset + (FrameLayout.overhead + bs.length)),
        .ok (offset + (FrameLayout.overhead + bs.length),
          { f with size := (f.headerFor body bs).size })) := by
  have all : Segment.bytes? (segments f.id body) =
      some (FrameHeader.tail body.frameType f.id ++ bs) :=
    bytes?_segments_eq_some_iff.mpr ⟨bs, spelled, rfl⟩
  have len : (FrameHeader.tail body.frameType f.id ++ bs).length = 14 + bs.length := by
    rw [List.length_append, FrameHeader.length_tail]
  simp only [FrameLayout.overhead] at room small ⊢
  have front : (buf.take offset).length = offset := List.length_take_of_le (by omega)
  have gap : ((buf.drop offset).take 2).length = 2 := by
    rw [List.length_take, List.length_drop]
    omega
  have first : CallWire.writeAt (segments f.id body) buf (offset + FrameLayout.typeOffset) =
      (buf.take offset ++ ((buf.drop offset).take 2 ++
        (FrameHeader.tail body.frameType f.id ++ bs ++ buf.drop (offset + (16 + bs.length)))),
        .ok (offset + (16 + bs.length))) := by
    refine (writeAt_eq_ok_iff ?_).mpr ⟨_, all, ?_, ?_, ?_⟩
    · simp only [FrameLayout.typeOffset]
      omega
    · simp only [FrameLayout.typeOffset, len]
      omega
    · rw [FrameLayout.typeOffset, List.take_add, len]
      simp only [List.append_assoc]
      congr 5
      omega
    · simp only [FrameLayout.typeOffset, len]
      omega
  have whole : (difference (offset + (16 + bs.length)) offset : Outcome Nat) =
      .ok (16 + bs.length) :=
    difference_eq_ok_iff.mpr ⟨Nat.le_add_right _ _, by omega⟩
  have sized := writeAt_size (UInt16.ofNat (16 + bs.length)) (buf.take offset)
    (FrameHeader.tail body.frameType f.id ++ bs ++ buf.drop (offset + (16 + bs.length))) gap
  rw [front] at sized
  unfold writeAt
  rw [body_eq_ok_iff.mpr held]
  simp only [first, whole, if_neg (Nat.not_lt.mpr small), sized]
  simp [headerFor, FrameHeader.bytes, FrameLayout.overhead, List.append_assoc]

/-- A frame with room for it is written as its header and the string of its body. -/
theorem writeAt_zeros {f : Frame} {body : HeldBody} {bs : Bytes} {n : Nat}
    (held : f.body? = some body) (spelled : Segment.bytes? body.segments = some bs)
    (room : FrameLayout.overhead + bs.length ≤ n)
    (small : FrameLayout.overhead + bs.length ≤ FrameLayout.maxSize) :
    f.writeAt (Bytes.zeros n) 0 =
      ((f.headerFor body bs).bytes ++ bs ++ Bytes.zeros (n - (FrameLayout.overhead + bs.length)),
        .ok (FrameLayout.overhead + bs.length, { f with size := (f.headerFor body bs).size })) := by
  have fits : 0 + (FrameLayout.overhead + bs.length) ≤ (Bytes.zeros n).length := by
    rw [Bytes.length_zeros, Nat.zero_add]
    exact room
  rw [writeAt_of_spelled held spelled fits small]
  simp [Bytes.zeros]

/-- What is known of a frame that was written. -/
theorem spelled_of_writeAt {f g : Frame} {body : HeldBody} {out : Bytes} {n written : Nat}
    (held : f.body? = some body) (h : f.writeAt (Bytes.zeros n) 0 = (out, .ok (written, g)))
    (room : FrameLayout.overhead ≤ n) :
    ∃ bs, Segment.bytes? body.segments = some bs ∧ written = FrameLayout.overhead + bs.length ∧
      written ≤ n ∧ written ≤ FrameLayout.maxSize := by
  have start : 0 + FrameLayout.typeOffset ≤ (Bytes.zeros n).length := by
    simp only [Bytes.length_zeros, FrameLayout.typeOffset, FrameLayout.overhead] at *
    omega
  unfold writeAt at h
  rw [body_eq_ok_iff.mpr held] at h
  simp only at h
  split at h
  · cases h
  · rename_i buf stop first
    obtain ⟨all, hall, fits, -, rfl⟩ := (writeAt_eq_ok_iff start).mp first
    obtain ⟨bs, spelled, rfl⟩ := bytes?_segments_eq_some_iff.mp hall
    rw [List.length_append, FrameHeader.length_tail] at fits h
    rw [difference_eq_ok_iff.mpr ⟨Nat.zero_le _, rfl⟩] at h
    simp only at h
    split at h
    · cases h
    · rename_i small
      split at h
      · cases h
      · cases h
        simp only [FrameLayout.typeOffset, FrameLayout.overhead, Bytes.length_zeros] at *
        exact ⟨bs, spelled, by omega, by omega, by omega⟩

/-- **A frame is encoded as its header and the string of its body.** It can be encoded exactly if
its body has a string, of the size that was worked out beforehand, and the whole fits the size
field. -/
theorem encode_eq_ok_iff {f g : Frame} {bytes : Bytes} :
    f.encode = .ok (bytes, g) ↔ ∃ body bs, f.body? = some body ∧
      Segment.bytes? body.segments = some bs ∧ body.length = .ok bs.length ∧
      FrameLayout.overhead + bs.length ≤ FrameLayout.maxSize ∧
      bytes = (f.headerFor body bs).bytes ++ bs ∧
      g = { f with size := (f.headerFor body bs).size } := by
  constructor
  · intro h
    obtain ⟨measured, hm, h⟩ := bind_eq_ok_iff.mp h
    obtain ⟨body, len, held, hlen, rfl, small⟩ := measure_eq_ok_iff.mp hm
    split at h
    · cases h
    · rename_i out written last done
      obtain ⟨bs, spelled, size, -, -⟩ := spelled_of_writeAt held done (Nat.le_add_right _ _)
      split at h
      · rename_i same
        have equal : len = bs.length := by omega
        subst equal
        have expected := writeAt_zeros held spelled (Nat.le_refl _) small
        rw [done, Nat.sub_self] at expected
        cases h
        cases expected
        exact ⟨body, bs, held, spelled, hlen, small, List.append_nil _, rfl⟩
      · cases h
  · rintro ⟨body, bs, held, spelled, len, small, rfl, rfl⟩
    have measured := measure_eq_ok_iff.mpr ⟨body, bs.length, held, len, rfl, small⟩
    have written := writeAt_zeros held spelled (Nat.le_refl _) small
    rw [Nat.sub_self] at written
    refine bind_eq_ok_iff.mpr ⟨_, measured, ?_⟩
    rw [written]
    simp [Bytes.zeros, pure, Except.pure]

/-- Appending a frame to a buffer appends the bytes it is encoded as. -/
theorem encodeInto_of_encode {f g : Frame} {bytes : Bytes} (h : f.encode = .ok (bytes, g))
    (dst : Bytes) : f.encodeInto dst = (dst ++ bytes, .ok (bytes.length, g)) := by
  obtain ⟨body, bs, held, spelled, len, small, rfl, rfl⟩ := encode_eq_ok_iff.mp h
  have measured := measure_eq_ok_iff.mpr ⟨body, bs.length, held, len, rfl, small⟩
  have written := writeAt_zeros held spelled (Nat.le_refl _) small
  rw [Nat.sub_self] at written
  unfold encodeInto
  rw [measured]
  simp only [written]
  simp [Bytes.zeros, FrameHeader.length_bytes]

end Frame
end CallWire
