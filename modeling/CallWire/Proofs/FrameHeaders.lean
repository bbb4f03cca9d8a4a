import CallWire.LazyFrame.Reading
import CallWire.Proofs.Exactness
import CallWire.Proofs.FrameBytes

/-!
# Headers as they stand on the wire

Where a frame lies inside its buffer, all ways to read its header give the same: the fields that
stand at fixed places of its first bytes (`FrameHeader.parse`).

* `FrameHeader.read_eq_parse`, `peek_eq_parse`, `LazyFrame.read_eq_parse`: the three ways;
* `FrameHeader.size_of_read`, `LazyFrame.inside_of_read`: what must be there for them to succeed;
* `FrameHeader.bytes_eq_iff`: the header is written as it stood, reserved bytes apart.
-/

namespace CallWire

theorem Cursor.inside_openAt {buf : Bytes} {offset : Nat} (inside : offset ≤ buf.length) :
    (openAt buf offset).beyond = false := by
  simp [openAt, Bytes.covers_eq, inside]

namespace Reader

variable {α β : Type} {buf : Bytes} {offset : Nat}

theorem runAt_eq_ok_iff {r : Reader α} {n : Nat} {a : α} :
    r.runAt buf offset = .ok (n, a) ↔
      ∃ c, r (Cursor.openAt buf offset) = .ok (a, c) ∧ n = c.pos := by
  unfold runAt
  cases r (Cursor.openAt buf offset) with
  | ok x => simp [Prod.ext_iff, and_comm, eq_comm]
  | error e => simp

theorem map_apply (f : α → β) (r : Reader α) (c : Cursor) :
    (f <$> r) c = (fun x => (f x.1, x.2)) <$> r c := by
  show (r c >>= fun x => Except.ok (f x.1, x.2)) = _
  cases r c <;> rfl

theorem take_openAt {n : Nat} (room : offset + n ≤ buf.length) :
    take n (Cursor.openAt buf offset) =
      .ok ((buf.drop offset).take n, Cursor.openAt buf (offset + n)) := by
  have enough : n ≤ buf.length - offset := by omega
  have inside : offset ≤ buf.length := by omega
  simp [take, Cursor.openAt, Bytes.covers_eq, enough, inside, room]

/-- A number that is there is read. -/
theorem number_openAt {w : Nat} (room : offset + w ≤ buf.length) :
    number w (Cursor.openAt buf offset) =
      .ok (Bytes.ofBigEndian ((buf.drop offset).take w), Cursor.openAt buf (offset + w)) := by
  rw [number, map_apply, take_openAt room]
  rfl

/-- A number that is read is there. -/
theorem room_of_number {w n : Nat} {c d : Cursor} (read : number w c = .ok (n, d)) :
    w ≤ c.ahead.length := by
  obtain ⟨bs, taken, -⟩ := map_eq_ok_iff.mp read
  unfold take at taken
  split at taken
  · exact Bytes.covers_iff.mp ‹_›
  · cases taken

end Reader

namespace FrameHeader

/-- The size that the first two bytes of a frame declare. -/
def declaredSize (bs : Bytes) : UInt16 := UInt16.ofNat (Bytes.ofBigEndian (bs.take 2))

/-- The byte that stands for the type. -/
def declaredType (bs : Bytes) : UInt8 :=
  UInt8.ofNat (Bytes.ofBigEndian ((bs.drop FrameLayout.typeOffset).take 1))

/-- The id in the header. -/
def declaredId (bs : Bytes) : UInt32 :=
  UInt32.ofNat (Bytes.ofBigEndian ((bs.drop FrameLayout.idOffset).take 4))

/-- The header in the first bytes of a frame. -/
def parse (bs : Bytes) : Outcome FrameHeader :=
  if (declaredSize bs).toNat < FrameLayout.overhead then
    refuse (.invalidFrameSize (declaredSize bs))
  else do
    return { size := declaredSize bs, type := ← typeOf (declaredType bs), id := declaredId bs }

/-- The frame at `offset` lies inside the buffer, with its size field in any case. -/
def Inside (buf : Bytes) (offset : Nat) : Prop :=
  offset + 2 ≤ buf.length ∧ offset + (declaredSize (buf.drop offset)).toNat ≤ buf.length

/-- The bytes of the frame at `offset`, as many as it declares. -/
def frameAt (buf : Bytes) (offset : Nat) : Bytes :=
  (buf.drop offset).take (declaredSize (buf.drop offset)).toNat

variable {buf bs : Bytes} {offset : Nat} {h : FrameHeader}

theorem length_frameAt (inside : Inside buf offset) :
    (frameAt buf offset).length = (declaredSize (buf.drop offset)).toNat := by
  have := inside.2
  rw [frameAt, List.length_take, List.length_drop]
  omega

/-- The bytes of a frame, cut off behind the frame first. -/
theorem drop_take_eq_frameAt {size : UInt16} (declared : declaredSize (buf.drop offset) = size)
    (n : Nat) :
    (buf.take (offset + size.toNat)).drop (offset + n) = (frameAt buf offset).drop n := by
  rw [← List.drop_drop, List.drop_take, Nat.add_sub_cancel_left, frameAt, declared]

theorem readSize_runAt (buf : Bytes) (offset : Nat)
    (room : offset + 2 ≤ buf.length) :
    readSize.runAt buf offset =
      if (declaredSize (buf.drop offset)).toNat < FrameLayout.overhead then
        refuse (.invalidFrameSize (declaredSize (buf.drop offset)))
      else .ok (offset + 2, declaredSize (buf.drop offset)) := by
  have size : Reader.word16 (Cursor.openAt buf offset) =
      .ok (declaredSize (buf.drop offset), Cursor.openAt buf (offset + 2)) := by
    rw [Reader.word16, Reader.map_apply, Reader.number_openAt room]
    rfl
  unfold Reader.runAt readSize
  simp only [bind, StateT.bind, size, Except.bind]
  by_cases small : (declaredSize (buf.drop offset)).toNat < FrameLayout.overhead
  · simp only [if_pos small]
    rfl
  · simp only [if_neg small]
    rfl

/-- A size field that can be read is there. -/
theorem room_of_readSize {n : Nat} {size : UInt16}
    (read : readSize.runAt buf offset = .ok (n, size)) : offset + 2 ≤ buf.length := by
  obtain ⟨c, read, -⟩ := Reader.runAt_eq_ok_iff.mp read
  obtain ⟨m, d, first, -⟩ := Reader.bind_eq_ok_iff.mp read
  obtain ⟨k, first, -⟩ := Reader.map_eq_ok_iff.mp first
  have room := Reader.room_of_number first
  simp only [Cursor.openAt, List.length_drop] at room
  omega

theorem byte_runAt (buf : Bytes) (offset : Nat)
    (room : offset + FrameLayout.typeOffset + 1 ≤ buf.length) :
    Reader.byte.runAt buf (offset + FrameLayout.typeOffset) =
      .ok (offset + FrameLayout.typeOffset + 1, declaredType (buf.drop offset)) := by
  rw [Reader.runAt, Reader.byte, Reader.map_apply, Reader.number_openAt room, declaredType,
    List.drop_drop]
  rfl

theorem word32_runAt (buf : Bytes) (offset : Nat)
    (room : offset + FrameLayout.idOffset + 4 ≤ buf.length) :
    Reader.word32.runAt buf (offset + FrameLayout.idOffset) =
      .ok (offset + FrameLayout.idOffset + 4, declaredId (buf.drop offset)) := by
  rw [Reader.runAt, Reader.word32, Reader.map_apply, Reader.number_openAt room, declaredId,
    List.drop_drop]
  rfl

/-- A frame that lies inside the buffer and declares a valid size has its whole header there. -/
theorem Inside.room (inside : Inside buf offset)
    (large : ¬ (declaredSize (buf.drop offset)).toNat < FrameLayout.overhead) :
    offset + FrameLayout.overhead ≤ buf.length := by
  have := inside.2
  omega

/-- A size that is too small is refused before anything else is read. -/
theorem read_of_undersized (room : offset + 2 ≤ buf.length)
    (small : (declaredSize (buf.drop offset)).toNat < FrameLayout.overhead) :
    read buf offset = refuse (.invalidFrameSize (declaredSize (buf.drop offset))) := by
  unfold read
  rw [readSize_runAt buf offset room]
  simp only [if_pos small]
  rfl

/-- Up to the end of the id, a header has to be there. -/
theorem read_of_room (room : offset + FrameLayout.idOffset + 4 ≤ buf.length) :
    read buf offset = parse (buf.drop offset) := by
  have id := word32_runAt buf offset room
  simp only [FrameLayout.idOffset] at room
  have there : offset + 2 ≤ buf.length := by omega
  by_cases small : (declaredSize (buf.drop offset)).toNat < FrameLayout.overhead
  · rw [read_of_undersized there small, parse, if_pos small]
  · have type := byte_runAt buf offset
      (by simp only [FrameLayout.typeOffset]; omega)
    simp only [FrameLayout.typeOffset] at type
    unfold read parse
    rw [readSize_runAt buf offset there]
    simp only [if_neg small, bind, Except.bind, type, id]

theorem read_eq_parse (inside : Inside buf offset) : read buf offset = parse (buf.drop offset) := by
  by_cases small : (declaredSize (buf.drop offset)).toNat < FrameLayout.overhead
  · rw [read_of_undersized inside.1 small, parse, if_pos small]
  · have room := inside.room small
    apply read_of_room
    simp only [FrameLayout.idOffset, FrameLayout.overhead] at *
    omega

theorem peek_eq_parse (room : offset + FrameLayout.overhead ≤ buf.length) :
    peek buf offset = parse (buf.drop offset) := by
  have whole : (Reader.take FrameLayout.overhead).runAt buf offset =
      .ok (offset + FrameLayout.overhead, (buf.drop offset).take FrameLayout.overhead) := by
    rw [Reader.runAt, Reader.take_openAt room]
    rfl
  simp only [FrameLayout.overhead] at room
  have size := readSize_runAt buf offset (by omega)
  have type := byte_runAt buf offset
    (by simp only [FrameLayout.typeOffset]; omega)
  have id := word32_runAt buf offset
    (by simp only [FrameLayout.idOffset]; omega)
  unfold peek parse
  by_cases small : (declaredSize (buf.drop offset)).toNat < FrameLayout.overhead
  · rw [if_pos small] at size ⊢
    simp only [bind, Except.bind, whole, FrameLayout.sizeOffset, Nat.add_zero, size]
    rfl
  · rw [if_neg small] at size ⊢
    simp only [bind, Except.bind, whole, FrameLayout.sizeOffset, Nat.add_zero, size, type, id]

/-- A field in front of a cut stays as it is. -/
theorem field_take (bs : Bytes) {n k w : Nat} (within : k + w ≤ n) :
    ((bs.take n).drop k).take w = (bs.drop k).take w := by
  rw [List.drop_take, List.take_take, Nat.min_eq_left (by omega)]

theorem declaredSize_take (bs : Bytes) {n : Nat} (there : 2 ≤ n) :
    declaredSize (bs.take n) = declaredSize bs :=
  congrArg (UInt16.ofNat <| Bytes.ofBigEndian ·) (field_take bs (k := 0) (by omega))

theorem declaredType_take (bs : Bytes) {n : Nat} (there : FrameLayout.typeOffset + 1 ≤ n) :
    declaredType (bs.take n) = declaredType bs := by
  rw [declaredType, declaredType, field_take bs there]

theorem declaredId_take (bs : Bytes) {n : Nat} (there : FrameLayout.idOffset + 4 ≤ n) :
    declaredId (bs.take n) = declaredId bs := by
  rw [declaredId, declaredId, field_take bs there]

/-- The fields of a header stand in its first bytes. -/
theorem declared_take (bs : Bytes) {n : Nat} (large : FrameLayout.overhead ≤ n) :
    declaredSize (bs.take n) = declaredSize bs ∧ declaredType (bs.take n) = declaredType bs ∧
      declaredId (bs.take n) = declaredId bs := by
  simp only [FrameLayout.overhead] at large
  refine ⟨declaredSize_take bs ?_, declaredType_take bs ?_, declaredId_take bs ?_⟩
  · omega
  · simp only [FrameLayout.typeOffset]
    omega
  · simp only [FrameLayout.idOffset]
    omega

theorem parse_take {n : Nat} (large : FrameLayout.overhead ≤ n) : parse (bs.take n) = parse bs := by
  obtain ⟨size, type, id⟩ := declared_take bs large
  rw [parse, parse, size, type, id]

theorem parse_eq_ok_iff :
    parse bs = .ok h ↔ FrameLayout.overhead ≤ h.size.toNat ∧ declaredSize bs = h.size ∧
      FrameType.ofNumber? (declaredType bs) = some h.type ∧ declaredId bs = h.id := by
  unfold parse typeOf
  obtain ⟨size, type, id⟩ := h
  split
  · rename_i small
    constructor
    · intro absurd
      cases absurd
    · rintro ⟨large, rfl, -⟩
      exact absurd large (Nat.not_le.mpr small)
  · rename_i large
    cases FrameType.ofNumber? (declaredType bs) with
    | none => simp [refuse, bind, Except.bind]
    | some known =>
      simp only [bind, Except.bind, pure, Except.pure, Except.ok.injEq, FrameHeader.mk.injEq,
        Option.some.injEq]
      constructor
      · rintro ⟨rfl, rfl, rfl⟩
        exact ⟨Nat.not_lt.mp large, rfl, rfl, rfl⟩
      · rintro ⟨-, same⟩
        exact same

/-- The nine bytes of a header that hold nothing. -/
def reserved (bs : Bytes) : Bytes := (bs.drop 3).take 1 ++ (bs.drop 8).take 8

/-- The sixteen bytes of a header are written as they were, reserved bytes apart. -/
theorem bytes_eq_iff (parsed : parse bs = .ok h) (room : FrameLayout.overhead ≤ bs.length) :
    h.bytes = bs.take FrameLayout.overhead ↔ reserved bs = Bytes.zeros 9 := by
  obtain ⟨-, hsize, htype, hid⟩ := parse_eq_ok_iff.mp parsed
  simp only [FrameLayout.overhead] at room
  have field (k w : Nat) (within : k + w ≤ 16) : ((bs.drop k).take w).length = w := by
    rw [List.length_take, List.length_drop]
    omega
  have small (k w : Nat) (within : k + w ≤ 16) :
      Bytes.ofBigEndian ((bs.drop k).take w) < Bytes.capacity w := by
    have := Bytes.ofBigEndian_lt ((bs.drop k).take w)
    rwa [field k w within] at this
  have number (k w : Nat) (within : k + w ≤ 16) :
      Bytes.bigEndian w (Bytes.ofBigEndian ((bs.drop k).take w)) = (bs.drop k).take w := by
    have := Bytes.bigEndian_ofBigEndian ((bs.drop k).take w)
    rwa [field k w within] at this
  have size : Bytes.bigEndian 2 h.size.toNat = bs.take 2 := by
    rw [← hsize, declaredSize, ← List.drop_zero (l := bs),
      UInt16.toNat_ofNat_of_lt' (small 0 2 (by decide)), number 0 2 (by decide)]
  have type : [h.type.number] = (bs.drop 2).take 1 := by
    rw [FrameType.number_of_ofNumber? htype, ← number 2 1 (by decide)]
    simp [declaredType, FrameLayout.typeOffset, Bytes.bigEndian, Bytes.capacity]
  have id : Bytes.bigEndian 4 h.id.toNat = (bs.drop 4).take 4 := by
    rw [← hid, declaredId, UInt32.toNat_ofNat_of_lt' (small _ 4 (by decide))]
    exact number 4 4 (by decide)
  have cut : bs.take FrameLayout.overhead = bs.take 2 ++ ((bs.drop 2).take 1 ++
      ((bs.drop 3).take 1 ++ ((bs.drop 4).take 4 ++ (bs.drop 8).take 8))) := by
    simp only [FrameLayout.overhead, ← List.append_assoc, ← List.take_add]
  have made : h.bytes = bs.take 2 ++ ((bs.drop 2).take 1 ++
      (Bytes.zeros 1 ++ ((bs.drop 4).take 4 ++ Bytes.zeros 8))) := by
    rw [bytes, tail, size, id, ← type]
    rfl
  have nine : Bytes.zeros 9 = Bytes.zeros 1 ++ Bytes.zeros 8 := rfl
  have one := field 3 1 (by decide)
  rw [made, cut, List.append_cancel_left_eq, List.append_cancel_left_eq, reserved, nine]
  constructor
  · intro same
    obtain ⟨first, others⟩ := List.append_inj same one.symm
    rw [first, List.append_cancel_left others]
  · intro same
    obtain ⟨first, others⟩ := List.append_inj same one
    rw [first, others]

/-- A header that can be read tells the size that stands there. -/
theorem size_of_read (read : read buf offset = .ok h) :
    offset + 2 ≤ buf.length ∧ h.size = declaredSize (buf.drop offset) := by
  obtain ⟨⟨next, size⟩, first, read⟩ := bind_eq_ok_iff.mp read
  have room := room_of_readSize first
  refine ⟨room, ?_⟩
  rw [readSize_runAt buf offset room] at first
  split at first
  · cases first
  · cases first
    obtain ⟨⟨_, n⟩, -, read⟩ := bind_eq_ok_iff.mp read
    obtain ⟨type, -, read⟩ := bind_eq_ok_iff.mp read
    obtain ⟨⟨_, id⟩, -, read⟩ := bind_eq_ok_iff.mp read
    cases read
    rfl

end FrameHeader

namespace LazyFrame

variable {buf : Bytes} {offset : Nat}

/-- The lazy frame of a header and the bytes it stands in. -/
def ofHeader (h : FrameHeader) (view : Bytes) : LazyFrame :=
  ⟨h.size, some h.type, h.id, some view, none⟩

theorem read_eq_parse (inside : FrameHeader.Inside buf offset) :
    read buf offset =
      (fun h => (offset + h.size.toNat, ofHeader h (FrameHeader.frameAt buf offset))) <$>
        FrameHeader.parse (buf.drop offset) := by
  have complete : Bytes.covers (offset + (FrameHeader.declaredSize (buf.drop offset)).toNat) buf =
      true := Bytes.covers_iff.mpr inside.2
  unfold read FrameHeader.parse
  rw [FrameHeader.readSize_runAt buf offset inside.1]
  by_cases small :
      (FrameHeader.declaredSize (buf.drop offset)).toNat < FrameLayout.overhead
  · simp only [if_pos small]
    rfl
  · have room := inside.room small
    have length := FrameHeader.length_frameAt inside
    obtain ⟨-, type, id⟩ := FrameHeader.declared_take (buf.drop offset) (Nat.not_lt.mp small)
    have htype := FrameHeader.byte_runAt (FrameHeader.frameAt buf offset) 0
      (by simp only [FrameLayout.typeOffset, FrameLayout.overhead] at *; omega)
    have hid := FrameHeader.word32_runAt (FrameHeader.frameAt buf offset) 0
      (by simp only [FrameLayout.idOffset, FrameLayout.overhead] at *; omega)
    rw [Nat.zero_add, List.drop_zero, FrameHeader.frameAt, type] at htype
    rw [Nat.zero_add, List.drop_zero, FrameHeader.frameAt, id] at hid
    simp only [if_neg small, bind, Except.bind, if_pos complete, htype, hid]
    cases FrameHeader.typeOf (FrameHeader.declaredType (buf.drop offset)) <;> rfl

/-- A lazy frame can only be read where all of it is there. -/
theorem inside_of_read {stop : Nat} {f : LazyFrame} (read : read buf offset = .ok (stop, f)) :
    FrameHeader.Inside buf offset := by
  obtain ⟨⟨next, size⟩, first, read⟩ := bind_eq_ok_iff.mp read
  have room := FrameHeader.room_of_readSize first
  refine ⟨room, ?_⟩
  rw [FrameHeader.readSize_runAt buf offset room] at first
  split at first
  · cases first
  · cases first
    simp only at read
    split at read
    · exact Bytes.covers_iff.mp ‹_›
    · obtain ⟨remaining, -, read⟩ := bind_eq_ok_iff.mp read
      cases read

/-- No body is known yet of a lazy frame that was read. -/
theorem body?_of_read {stop : Nat} {f : LazyFrame} (read : read buf offset = .ok (stop, f)) :
    f.body? = none := by
  rw [read_eq_parse (inside_of_read read)] at read
  cases parsed : FrameHeader.parse (buf.drop offset) with
  | error fault =>
    rw [parsed] at read
    cases read
  | ok header =>
    rw [parsed] at read
    cases read
    rfl

end LazyFrame

end CallWire
