import CallWire.FrameSplitter
import CallWire.LazyFrame.Reading
import CallWire.Proofs.FrameRoundTrip

/-!
# Splitting off what was encoded

A splitter that is fed the bytes of encoded frames hands out the first of them as soon as all its
bytes are there, and nothing before (`next_of_encode`). The size field at the front tells it how
many bytes that takes (`Frame.size_of_encode`), and they are read as the lazy frame that stands for
the frame (`LazyFrame.read_of_encode`).
-/

namespace CallWire

namespace Frame

/-- The bytes that a frame is encoded as, if it can be encoded. -/
def wire (f : Frame) : Bytes :=
  match f.encode with
  | .ok (bytes, _) => bytes
  | .error _ => []

/-- What a splitter makes of these bytes. -/
def lazy (f : Frame) : LazyFrame :=
  ⟨UInt16.ofNat f.wire.length, f.type?, f.id, some f.wire, none⟩

/-- The frame can be encoded, and its body can be read back. -/
def Readable (f : Frame) : Prop :=
  ∃ body g, f.body? = some body ∧ body.DistinctHeaders ∧ f.encode = .ok (f.wire, g)

variable {f g : Frame}

theorem wire_of_encode {bytes : Bytes} (encoded : f.encode = .ok (bytes, g)) : f.wire = bytes := by
  rw [wire, encoded]

/-- The first two bytes of an encoded frame are its size. -/
theorem size_of_encode (encoded : f.encode = .ok (f.wire, g)) :
    FrameLayout.overhead ≤ f.wire.length ∧
      Bytes.ofBigEndian (f.wire.take 2) = f.wire.length := by
  obtain ⟨body, bs, held, spelled, -, small, made, -⟩ := encode_eq_ok_iff.mp encoded
  have size := size_headerFor f body small
  have length : f.wire.length = FrameLayout.overhead + bs.length := by
    rw [made, List.length_append, FrameHeader.length_bytes]
  refine ⟨by omega, ?_⟩
  have front : f.wire.take 2 = Bytes.bigEndian 2 (f.headerFor body bs).size.toNat := by
    rw [made, FrameHeader.bytes, List.append_assoc, List.take_left' (Bytes.length_bigEndian _ _)]
  rw [front, Bytes.ofBigEndian_bigEndian, size, length]
  exact Nat.mod_eq_of_lt (Nat.lt_succ_of_le small)

end Frame

theorem LazyFrame.read_of_encode {f g : Frame} (encoded : f.encode = .ok (f.wire, g)) :
    LazyFrame.read f.wire 0 = .ok (f.wire.length, f.lazy) := by
  obtain ⟨body, bs, held, spelled, -, small, made, -⟩ := Frame.encode_eq_ok_iff.mp encoded
  have size := Frame.size_headerFor f body small
  have length : f.wire.length = (f.headerFor body bs).size.toNat := by
    rw [made, size, List.length_append, FrameHeader.length_bytes]
  have stands : (f.headerFor body bs).StandsAt f.wire 0 := ⟨bs, made⟩
  have complete : Bytes.covers (f.headerFor body bs).size.toNat f.wire = true :=
    Bytes.covers_iff.mpr (Nat.le_of_eq length.symm)
  have view : (f.wire.drop 0).take (f.headerFor body bs).size.toNat = f.wire := by
    rw [← length]
    exact List.take_length
  have type := stands.type
  have id := stands.id
  rw [Nat.zero_add] at type id
  have same : f.type? = some (f.headerFor body bs).type := by
    simp [Frame.type?, held, Frame.headerFor]
  have lazy : f.lazy = ⟨(f.headerFor body bs).size, some (f.headerFor body bs).type,
      (f.headerFor body bs).id, some f.wire, none⟩ := by
    rw [Frame.lazy, length, UInt16.ofNat_toNat, same]
    rfl
  unfold LazyFrame.read
  rw [stands.size (by omega), lazy, length]
  simp only [bind, Except.bind, Nat.zero_add, if_pos complete, view, type,
    FrameHeader.typeOf_number, id]
  rfl

namespace FrameSplitter

variable {s : FrameSplitter}

theorem buffered_feed (s : FrameSplitter) (bs : Bytes) :
    (s.feed bs).buffered = s.buffered ++ bs := s.queue.toList_push bs

/-- With less than two bytes there is no telling the size of a frame. -/
theorem next_of_short (p : ConnectionPools) (short : s.buffered.length < 2) :
    ∃ t, s.next p = (.ok none, p, t) ∧ t.buffered = s.buffered := by
  have front := ByteQueue.front_reserve s.queue 2
  refine ⟨⟨s.queue.reserve 2⟩, ?_, ByteQueue.toList_reserve s.queue 2⟩
  unfold next
  simp only
  split
  · rename_i hi lo rest found
    rw [found] at front
    have lengths := congrArg List.length front
    have few : s.queue.toList.length < 2 := short
    simp only [List.take_succ_cons, List.take_zero, List.length_cons, List.length_nil,
      List.length_take] at lengths
    omega
  · rfl

/-- With two bytes there is. -/
theorem front_of_two (two : 2 ≤ s.buffered.length) :
    ∃ hi lo rest, (s.queue.reserve 2).front = hi :: lo :: rest ∧ s.buffered.take 2 = [hi, lo] := by
  have front := ByteQueue.front_reserve s.queue 2
  have lengths := congrArg List.length front
  have enough : 2 ≤ s.queue.toList.length := two
  rw [List.length_take, List.length_take, Nat.min_eq_left enough] at lengths
  cases found : (s.queue.reserve 2).front with
  | nil => simp [found] at lengths
  | cons hi more =>
    cases more with
    | nil => simp [found] at lengths
    | cons lo rest =>
      rw [found] at front
      exact ⟨hi, lo, rest, rfl, front.symm⟩

/-- A frame is not handed out before all of it is there. -/
theorem next_of_incomplete {n : Nat} (p : ConnectionPools) (two : 2 ≤ s.buffered.length)
    (size : Bytes.ofBigEndian (s.buffered.take 2) = n) (large : FrameLayout.overhead ≤ n)
    (less : s.buffered.length < n) :
    ∃ t, s.next p = (.ok none, p, t) ∧ t.buffered = s.buffered := by
  obtain ⟨hi, lo, rest, front, head⟩ := front_of_two two
  rw [head] at size
  have waits : s.queue.size < n := by
    rw [← s.queue.length_toList]
    exact less
  refine ⟨⟨s.queue.reserve 2⟩, ?_, ByteQueue.toList_reserve s.queue 2⟩
  unfold next
  simp only [front, size, if_neg (Nat.not_lt.mpr large), FrameSplitter.size,
    ByteQueue.size_reserve, if_pos waits]

/-- A size that is too small is reported, and nothing is taken out. -/
theorem next_of_undersized {n : Nat} (p : ConnectionPools) (two : 2 ≤ s.buffered.length)
    (size : Bytes.ofBigEndian (s.buffered.take 2) = n) (small : n < FrameLayout.overhead) :
    ∃ t, s.next p = (refuse (.invalidFrameSize (UInt16.ofNat n)), p, t) ∧
      t.buffered = s.buffered := by
  obtain ⟨hi, lo, rest, front, head⟩ := front_of_two two
  rw [head] at size
  refine ⟨⟨s.queue.reserve 2⟩, ?_, ByteQueue.toList_reserve s.queue 2⟩
  unfold next
  simp only [front, size, if_pos small]

/-- What is taken out when all bytes of a frame are there. -/
theorem next_of_whole {n : Nat} (p : ConnectionPools) (two : 2 ≤ s.buffered.length)
    (size : Bytes.ofBigEndian (s.buffered.take 2) = n) (large : FrameLayout.overhead ≤ n)
    (whole : n ≤ s.buffered.length) :
    ∃ t, s.next p = ((some ·.2) <$> (p.readLazyFrame (s.buffered.take n) 0).1,
        (p.readLazyFrame (s.buffered.take n) 0).2, t) ∧ t.buffered = s.buffered.drop n := by
  obtain ⟨hi, lo, rest, front, head⟩ := front_of_two two
  rw [head] at size
  have there : ¬ s.queue.size < n := by
    rw [← s.queue.length_toList]
    exact Nat.not_lt.mpr whole
  obtain ⟨bytes, left⟩ := ByteQueue.split_eq (s.queue.reserve 2) n
  rw [ByteQueue.toList_reserve] at bytes left
  refine ⟨⟨((s.queue.reserve 2).split n).2⟩, ?_, left⟩
  rw [show s.buffered.take n = ((s.queue.reserve 2).split n).1 from bytes.symm]
  unfold next
  simp only [front, size, if_neg (Nat.not_lt.mpr large), FrameSplitter.size,
    ByteQueue.size_reserve, if_neg there]
  rcases p.readLazyFrame ((s.queue.reserve 2).split n).1 0 with ⟨fault | ⟨stop, h⟩, q⟩ <;> rfl

/-- A frame is handed out when all of it is there. -/
theorem next_of_complete {n stop : Nat} {p q : ConnectionPools} {h : Pooled LazyFrame}
    (two : 2 ≤ s.buffered.length) (size : Bytes.ofBigEndian (s.buffered.take 2) = n)
    (large : FrameLayout.overhead ≤ n) (whole : n ≤ s.buffered.length)
    (read : p.readLazyFrame (s.buffered.take n) 0 = (.ok (stop, h), q)) :
    ∃ t, s.next p = (.ok (some h), q, t) ∧ t.buffered = s.buffered.drop n := by
  obtain ⟨t, next, left⟩ := next_of_whole p two size large whole
  rw [read] at next
  exact ⟨t, next, left⟩

/-- The front of the stream is an encoded frame: it is handed out if all of it is there. -/
theorem next_of_encode {f g : Frame} {unfed more : Bytes}
    (encoded : f.encode = .ok (f.wire, g)) (split : s.buffered ++ unfed = f.wire ++ more)
    (p : ConnectionPools) :
    (∃ t, s.next p = (.ok none, p, t) ∧ t.buffered = s.buffered ∧
      s.buffered.length < f.wire.length) ∨
    ∃ t h, s.next p = (.ok (some h), p.takeLazyFrame.2, t) ∧ h.value? = some f.lazy ∧
      t.buffered ++ unfed = more := by
  obtain ⟨large, size⟩ := Frame.size_of_encode encoded
  have room : 2 ≤ f.wire.length := Nat.le_trans (by decide) large
  by_cases two : 2 ≤ s.buffered.length
  · have front : s.buffered.take 2 = f.wire.take 2 := by
      have both : (s.buffered ++ unfed).take 2 = s.buffered.take 2 :=
        List.take_append_of_le_length two
      rw [← both, split, List.take_append_of_le_length room]
    rw [← front] at size
    by_cases whole : f.wire.length ≤ s.buffered.length
    · have all : s.buffered.take f.wire.length = f.wire := by
        have both : (s.buffered ++ unfed).take f.wire.length = s.buffered.take f.wire.length :=
          List.take_append_of_le_length whole
        rw [← both, split, List.take_left]
      have rest : s.buffered.drop f.wire.length ++ unfed = more := by
        rw [← List.drop_append_of_le_length whole, split, List.drop_left]
      have read : p.readLazyFrame (s.buffered.take f.wire.length) 0 =
          (.ok (f.wire.length, { p.takeLazyFrame.1 with value? := some f.lazy }),
            p.takeLazyFrame.2) := by
        rw [all, ConnectionPools.readLazyFrame, LazyFrame.read_of_encode encoded]
      obtain ⟨t, next, left⟩ := next_of_complete two size large whole read
      exact Or.inr ⟨t, _, next, rfl, left ▸ rest⟩
    · have less := Nat.not_le.mp whole
      obtain ⟨t, next, same⟩ := next_of_incomplete p two size large less
      exact Or.inl ⟨t, next, same, less⟩
  · obtain ⟨t, next, same⟩ := next_of_short p (Nat.not_le.mp two)
    exact Or.inl ⟨t, next, same, by omega⟩

end FrameSplitter

end CallWire
