import CallWire.Proofs.LazyAgreement
import CallWire.Proofs.StreamSplitting

/-!
# What a lazy frame stands for

A lazy frame says in three places what it is: in its fields, in the bytes it keeps, and in the body
it may have decoded. Whatever is done to it, the three agree, and the bytes are those it was read
from, with the last id that it was given (`LazyFrame.Represents.handleAll`).

* `Obtained.exists_header`: what a lazy frame is made of when it is read or split off a stream;
* `Represents.setId_eq`, `Represents.writeAt_of_room`: giving it an id never fails, and writing it out fails
  only for want of room;
* `decodeBody_again`: a body is decoded once.
-/

namespace CallWire

/-- The bytes of a frame with another id in their header. -/
def withId (bytes : Bytes) (id : UInt32) : Bytes :=
  bytes.take FrameLayout.idOffset ++ (Bytes.bigEndian 4 id.toNat ++
    bytes.drop (FrameLayout.idOffset + 4))

section WithId

variable {bytes : Bytes} (id : UInt32)

theorem length_withId (long : FrameLayout.overhead ≤ bytes.length) :
    (withId bytes id).length = bytes.length := by
  simp only [withId, List.length_append, List.length_take, List.length_drop,
    Bytes.length_bigEndian, FrameLayout.idOffset, FrameLayout.overhead] at *
  omega

/-- In front of the id and behind it nothing changes. -/
theorem withId_apart (long : FrameLayout.overhead ≤ bytes.length) :
    (withId bytes id).take FrameLayout.idOffset = bytes.take FrameLayout.idOffset ∧
      (withId bytes id).drop (FrameLayout.idOffset + 4) =
        bytes.drop (FrameLayout.idOffset + 4) := by
  have front : (bytes.take FrameLayout.idOffset).length = FrameLayout.idOffset := by
    simp only [List.length_take, FrameLayout.idOffset, FrameLayout.overhead] at *
    omega
  constructor
  · rw [withId, List.take_left' front]
  · rw [withId, ← List.drop_drop, List.drop_left' front,
      List.drop_left' (Bytes.length_bigEndian _ _)]

/-- The last id counts. -/
theorem withId_withId (long : FrameLayout.overhead ≤ bytes.length) (last : UInt32) :
    withId (withId bytes id) last = withId bytes last := by
  obtain ⟨front, back⟩ := withId_apart id long
  rw [withId, front, back, withId]

theorem drop_withId (long : FrameLayout.overhead ≤ bytes.length) :
    (withId bytes id).drop FrameLayout.bodyOffset = bytes.drop FrameLayout.bodyOffset := by
  have behind : FrameLayout.bodyOffset = FrameLayout.idOffset + 4 + 8 := rfl
  rw [behind, ← List.drop_drop, (withId_apart id long).2, List.drop_drop]

/-- The header with another id is the header of the bytes with another id. -/
theorem parse_withId {h : FrameHeader} (long : FrameLayout.overhead ≤ bytes.length)
    (parsed : FrameHeader.parse bytes = .ok h) :
    FrameHeader.parse (withId bytes id) = .ok { h with id } := by
  obtain ⟨large, size, type, -⟩ := FrameHeader.parse_eq_ok_iff.mp parsed
  obtain ⟨front, -⟩ := withId_apart id long
  have field (k w : Nat) (within : k + w ≤ FrameLayout.idOffset) :
      ((withId bytes id).drop k).take w = (bytes.drop k).take w := by
    have cut (bs : Bytes) : ((bs.take FrameLayout.idOffset).drop k).take w =
        (bs.drop k).take w := by
      rw [List.drop_take, List.take_take, Nat.min_eq_left (by omega)]
    rw [← cut, front, cut]
  have four : (bytes.take FrameLayout.idOffset).length = FrameLayout.idOffset := by
    simp only [List.length_take, FrameLayout.idOffset, FrameLayout.overhead] at *
    omega
  refine FrameHeader.parse_eq_ok_iff.mpr ⟨large, ?_, ?_, ?_⟩
  · rw [← size]
    exact congrArg (UInt16.ofNat <| Bytes.ofBigEndian ·) (field 0 2 (by decide))
  · rw [← type, FrameHeader.declaredType, FrameHeader.declaredType, field _ _ (by decide)]
  · rw [FrameHeader.declaredId, withId, List.drop_left' four,
      List.take_left' (Bytes.length_bigEndian _ _), Bytes.ofBigEndian_bigEndian,
      Nat.mod_eq_of_lt (show id.toNat < Bytes.capacity 4 from id.toNat_lt), UInt32.ofNat_toNat]

end WithId

/-- Bytes that have no room are not written at all. -/
theorem writeAt_put_of_short {bs buf : Bytes} {offset : Nat} (nonempty : bs ≠ [])
    (short : buf.length < offset + bs.length) :
    CallWire.writeAt [.put bs] buf offset =
      (buf, refuse (.shortWrite bs.length (buf.length - offset) offset)) := by
  have positive := List.length_pos_iff.mpr nonempty
  have ahead : (Pen.openAt buf offset).ahead.length = buf.length - offset := List.length_drop
  have full : (Pen.openAt buf offset).ahead.length < bs.length := by omega
  have stops := Pen.write_put_short full []
  simp only [CallWire.writeAt, stops, ahead, refuse, Pen.buffer_openAt]
  rfl

/-- A reader sees what stands at its place and behind it. -/
theorem Reader.runAt_congr {α : Type} (r : Reader α) {buf other : Bytes} {offset : Nat}
    (length : other.length = buf.length) (same : other.drop offset = buf.drop offset) :
    r.runAt other offset = r.runAt buf offset := by
  have start : Cursor.openAt other offset = Cursor.openAt buf offset := by
    simp [Cursor.openAt, same, Bytes.covers_eq, length]
  rw [runAt, start, ← runAt]

theorem HeldBody.contents_clone (b : HeldBody) : b.clone.contents = b.contents := by
  cases b <;> rfl

namespace LazyFrame

/-- The lazy frame `f` is what reading the frame at some offset gives, or what a splitter hands out;
`original` is the bytes that it was read from. -/
inductive Obtained : LazyFrame → Bytes → Prop
  | read {p : ConnectionPools} {buf : Bytes} {offset stop : Nat} {h : Pooled LazyFrame}
      {f : LazyFrame} : (p.readLazyFrame buf offset).1 = .ok (stop, h) → h.value? = some f →
      Obtained f ((buf.take stop).drop offset)
  | split {p : ConnectionPools} {s : FrameSplitter} {h : Pooled LazyFrame} {f : LazyFrame} :
      (s.next p).1 = .ok (some h) → h.value? = some f →
      Obtained f (s.buffered.take (s.buffered.length - (s.next p).2.2.buffered.length))

/-- What is read is the header in front, and the bytes that it declares. -/
theorem exists_header_of_read {buf : Bytes} {offset stop : Nat} {f : LazyFrame}
    (read : LazyFrame.read buf offset = .ok (stop, f)) :
    Whole ((buf.take stop).drop offset) ∧ ∃ header,
      FrameHeader.parse ((buf.take stop).drop offset) = .ok header ∧
      f = ofHeader header ((buf.take stop).drop offset) := by
  have inside := inside_of_read read
  rw [read_eq_parse inside] at read
  cases parsed : FrameHeader.parse (buf.drop offset) with
  | error fault =>
    rw [parsed] at read
    cases read
  | ok header =>
    rw [parsed] at read
    cases read
    obtain ⟨large, declared, -⟩ := FrameHeader.parse_eq_ok_iff.mp parsed
    have cut := FrameHeader.drop_take_eq_frameAt declared 0
    rw [Nat.add_zero, List.drop_zero] at cut
    have length := FrameHeader.length_frameAt inside
    rw [cut]
    rw [← declared] at large
    obtain ⟨size, -⟩ := FrameHeader.declared_take (buf.drop offset) large
    refine ⟨⟨length ▸ large, ?_⟩, header, ?_, rfl⟩
    · rw [length, FrameHeader.frameAt, size]
    · rw [FrameHeader.frameAt, FrameHeader.parse_take large, parsed]

/-- A lazy frame is made of the header in front of its bytes, and of no body. -/
theorem Obtained.exists_header {f : LazyFrame} {original : Bytes} (obtained : Obtained f original) :
    Whole original ∧ ∃ header, FrameHeader.parse original = .ok header ∧
      f = ofHeader header original := by
  cases obtained with
  | @read p buf offset stop h _ read held =>
    rw [p.readLazyFrame_fst] at read
    cases found : LazyFrame.read buf offset with
    | error fault =>
      rw [found] at read
      cases read
    | ok x =>
      rw [found] at read
      cases read
      cases held
      exact exists_header_of_read found
  | @split p s h _ answer held =>
    rcases s.next_cases p with ⟨-, known, -⟩ | ⟨-, known, -⟩ |
      ⟨piece, whole, stands, ⟨g, read, known, -⟩ | ⟨n, -, known, -⟩⟩
    · cases known.symm.trans answer
    · cases known.symm.trans answer
    · cases known.symm.trans answer
      cases held
      have taken : s.buffered.take (s.buffered.length - (s.next p).2.2.buffered.length) = piece := by
        generalize (s.next p).2.2.buffered = rest at stands
        rw [stands, List.length_append, Nat.add_sub_cancel, List.take_left]
      rw [taken]
      rcases whole.read_cases with ⟨g, found, -⟩ | ⟨n, found⟩
      · have same : g = f := by
          rw [frameOf, found] at read
          exact Except.ok.inj read
        have piece_eq : (piece.take piece.length).drop 0 = piece := by
          rw [List.take_length, List.drop_zero]
        have made := exists_header_of_read found
        rwa [piece_eq, same] at made
      · rw [frameOf, found] at read
        cases read
    · cases known.symm.trans answer

/-- What can be done to a lazy frame: its body is decoded, with the help of some pools; it is given
an id; it is written into a buffer; or a copy takes its place. -/
inductive Handling where
  | decode (p : ConnectionPools)
  | setId (id : UInt32)
  | write (buf : Bytes) (offset : Nat)
  | clone

/-- The lazy frame afterwards. What fails leaves it as it was. -/
def handle (f : LazyFrame) : Handling → LazyFrame
  | .decode p =>
      match (p.decodeBody f).1 with
      | .ok (_, g) => g
      | .error _ => f
  | .setId id =>
      match f.setId id with
      | .ok g => g
      | .error _ => f
  | .write _ _ => f
  | .clone => f.clone

def handleAll (f : LazyFrame) (handlings : List Handling) : LazyFrame := handlings.foldl handle f

/-- The id that is given. -/
def Handling.id? : Handling → Option UInt32
  | .setId id => some id
  | _ => none

/-- The last id that is given. -/
def lastId? (handlings : List Handling) : Option UInt32 :=
  (handlings.filterMap Handling.id?).getLast?

/-- The bytes with the id, if there is one. -/
def readdressed (bytes : Bytes) : Option UInt32 → Bytes
  | some id => withId bytes id
  | none => bytes

/-- The fields of the lazy frame, the bytes it keeps and the body it has decoded all say the same:
that it is the frame with these bytes. -/
structure Represents (f : LazyFrame) (bytes : Bytes) : Prop where
  view : f.view? = some bytes
  length : bytes.length = f.size.toNat
  header : ∃ type, f.type? = some type ∧ FrameHeader.peek bytes 0 = .ok ⟨f.size, type, f.id⟩
  /-- The body that has been decoded is the one that is read from the bytes. -/
  cached : ∀ type body, f.type? = some type → f.body? = some body → ∀ p : ConnectionPools,
    ∃ stop held, (p.readBody type bytes FrameLayout.bodyOffset).1 = .ok (stop, held) ∧
      held.contents = body.contents

variable {f g : LazyFrame} {bytes : Bytes} {header : FrameHeader}

/-- What a lazy frame that stands for some bytes is made of. -/
theorem Represents.exists_header (represents : f.Represents bytes) :
    FrameLayout.overhead ≤ bytes.length ∧ ∃ header, FrameHeader.parse bytes = .ok header ∧
      f = { ofHeader header bytes with body? := f.body? } := by
  obtain ⟨view, -, ⟨type, typed, peeked⟩, -⟩ := represents
  have long : FrameLayout.overhead ≤ bytes.length := by
    obtain ⟨⟨n, bs⟩, front, -⟩ := bind_eq_ok_iff.mp peeked
    obtain ⟨c, front, -⟩ := Reader.runAt_eq_ok_iff.mp front
    obtain ⟨length, cs, spelled, -, stands, -⟩ :=
      Reader.take_spans (Cursor.inside_openAt (Nat.zero_le _)) front
    rw [Segment.bytes?_put, Option.some.injEq] at spelled
    have total := congrArg List.length stands
    simp only [Cursor.openAt, List.drop_zero, List.length_append, ← spelled, length] at total
    omega
  rw [FrameHeader.peek_eq_parse (by rwa [Nat.zero_add]), List.drop_zero] at peeked
  refine ⟨long, _, peeked, ?_⟩
  obtain ⟨size, type?, id, view?, body?⟩ := f
  cases view
  cases typed
  rfl

/-- What is made of a header and the bytes it stands in, and of the body that is read from them if
of any, stands for the bytes. -/
theorem represents_ofHeader (parsed : FrameHeader.parse bytes = .ok header)
    (whole : bytes.length = header.size.toNat) (body? : Option HeldBody)
    (cached : ∀ body, body? = some body → ∃ stop b,
      (Body.read header.type).runAt bytes FrameLayout.bodyOffset = .ok (stop, b) ∧
        body.contents = (HeldBody.pooled b).contents) :
    ({ ofHeader header bytes with body? } : LazyFrame).Represents bytes := by
  obtain ⟨large, -⟩ := FrameHeader.parse_eq_ok_iff.mp parsed
  refine ⟨rfl, whole, ⟨header.type, rfl, ?_⟩, ?_⟩
  · rw [FrameHeader.peek_eq_parse (by rw [Nat.zero_add, whole]; exact large), List.drop_zero,
      parsed]
    rfl
  · intro type body typed known p
    cases typed
    obtain ⟨stop, b, read, same⟩ := cached body known
    exact ⟨stop, .pooled b, by rw [p.readBody_fst, read]; rfl, same.symm⟩

namespace Represents

theorem exists_body (represents : f.Represents bytes) (parsed : FrameHeader.parse bytes = .ok header)
    {body : HeldBody} (known : f.body? = some body) : ∃ stop b,
      (Body.read header.type).runAt bytes FrameLayout.bodyOffset = .ok (stop, b) ∧
        body.contents = (HeldBody.pooled b).contents := by
  obtain ⟨-, found, again, made⟩ := represents.exists_header
  cases again.symm.trans parsed
  have typed : f.type? = some header.type := by rw [made]; rfl
  obtain ⟨stop, held, read, same⟩ := represents.cached _ _ typed known .empty
  rw [ConnectionPools.readBody_fst] at read
  cases run : (Body.read header.type).runAt bytes FrameLayout.bodyOffset with
  | error fault =>
    rw [run] at read
    cases read
  | ok x =>
    rw [run] at read
    cases read
    exact ⟨x.1, x.2, rfl, same.symm⟩

/-- Giving the frame an id puts it into the bytes. -/
theorem setId_eq (represents : f.Represents bytes) (id : UInt32) :
    f.setId id = .ok { f with view? := some (withId bytes id), id } := by
  obtain ⟨long, -⟩ := represents.exists_header
  have room : FrameLayout.idOffset + (Bytes.bigEndian 4 id.toNat).length ≤ bytes.length := by
    simp only [Bytes.length_bigEndian, FrameLayout.idOffset, FrameLayout.overhead] at *
    omega
  have put : CallWire.writeAt [.word32 id] bytes FrameLayout.idOffset =
      (withId bytes id, .ok (FrameLayout.idOffset + 4)) := by
    refine (writeAt_eq_ok_iff (Nat.le_of_add_right_le room)).mpr
      ⟨_, Segment.bytes?_number _ _, room, ?_, ?_⟩
    · rw [withId, Bytes.length_bigEndian, List.append_assoc]
    · rw [Bytes.length_bigEndian]
  unfold setId
  refine bind_eq_ok_iff.mpr ⟨bytes, by rw [LazyFrame.view, represents.view], ?_⟩
  rw [put]
  rfl

theorem represents_setId (represents : f.Represents bytes) (id : UInt32) :
    ({ f with view? := some (withId bytes id), id } : LazyFrame).Represents (withId bytes id) := by
  obtain ⟨long, header, parsed, made⟩ := represents.exists_header
  have whole : bytes.length = header.size.toNat := by
    rw [represents.length, made]
    rfl
  have moved : ({ f with view? := some (withId bytes id), id } : LazyFrame) =
      { ofHeader { header with id } (withId bytes id) with body? := f.body? } := by
    conv => lhs; rw [made]
    rfl
  rw [moved]
  refine represents_ofHeader (parse_withId id long parsed) ((length_withId id long).trans whole)
    _ fun body known => ?_
  obtain ⟨stop, b, read, same⟩ := represents.exists_body parsed known
  refine ⟨stop, b, ?_, same⟩
  rw [← read]
  exact Reader.runAt_congr _ (length_withId id long) (drop_withId id long)

/-- The bytes are put down as they are, if there is room for them. -/
theorem writeAt_of_room (represents : f.Represents bytes) {buf : Bytes} {offset : Nat}
    (room : offset + bytes.length ≤ buf.length) :
    f.writeAt buf offset = (buf.take offset ++ bytes ++ buf.drop (offset + bytes.length),
      .ok (offset + bytes.length)) := by
  rw [writeAt, LazyFrame.view, represents.view]
  exact (writeAt_eq_ok_iff (Nat.le_of_add_right_le room)).mpr
    ⟨bytes, Segment.bytes?_put bytes, room, rfl, rfl⟩

/-- Otherwise nothing is put down. -/
theorem writeAt_of_short (represents : f.Represents bytes) {buf : Bytes} {offset : Nat}
    (short : buf.length < offset + bytes.length) :
    f.writeAt buf offset =
      (buf, refuse (.shortWrite f.size.toNat (buf.length - offset) offset)) := by
  obtain ⟨long, -⟩ := represents.exists_header
  have nonempty : bytes ≠ [] := by
    rintro rfl
    cases long
  rw [writeAt, LazyFrame.view, represents.view, ← represents.length]
  exact writeAt_put_of_short nonempty short

theorem represents_decode (represents : f.Represents bytes) {p : ConnectionPools} {body : HeldBody}
    (decoded : (p.decodeBody f).1 = .ok (body, g)) :
    g.Represents bytes ∧ g.body? = some body := by
  obtain ⟨-, header, parsed, made⟩ := represents.exists_header
  have whole : bytes.length = header.size.toNat := by
    rw [represents.length, made]
    rfl
  cases known : f.body? with
  | some held =>
    unfold ConnectionPools.decodeBody at decoded
    rw [known] at decoded
    cases decoded
    exact ⟨represents, known⟩
  | none =>
    have fresh : f = ofHeader header bytes := by
      rw [made, known]
      rfl
    rw [fresh, p.decodeBody_ofHeader] at decoded
    obtain ⟨⟨stop, b⟩, read, decoded⟩ := bind_eq_ok_iff.mp decoded
    rw [FrameHeader.tagged_eq_ok_iff] at read
    cases decoded
    refine ⟨represents_ofHeader parsed whole _ fun body known => ?_, rfl⟩
    cases known
    exact ⟨stop, b, read, rfl⟩

theorem represents_clone (represents : f.Represents bytes) : f.clone.Represents bytes := by
  obtain ⟨-, header, parsed, made⟩ := represents.exists_header
  have whole : bytes.length = header.size.toNat := by
    rw [represents.length, made]
    rfl
  have copied : f.clone = { ofHeader header bytes with body? := f.body?.map HeldBody.clone } := by
    conv => lhs; rw [made]
    rfl
  rw [copied]
  refine represents_ofHeader parsed whole _ fun body copy => ?_
  obtain ⟨held, known, rfl⟩ := Option.map_eq_some_iff.mp copy
  obtain ⟨stop, b, read, same⟩ := represents.exists_body parsed known
  exact ⟨stop, b, read, (HeldBody.contents_clone held).trans same⟩

/-- One handling leaves a lazy frame that stands for the same bytes, with the id if one is given. -/
theorem handle (represents : f.Represents bytes) (a : Handling) :
    (f.handle a).Represents (readdressed bytes a.id?) := by
  cases a with
  | decode p =>
    show (match (p.decodeBody f).1 with | .ok (_, g) => g | .error _ => f).Represents bytes
    split
    · exact (represents.represents_decode ‹_›).1
    · exact represents
  | setId id =>
    rw [LazyFrame.handle, represents.setId_eq id]
    exact represents.represents_setId id
  | write buf offset => exact represents
  | clone => exact represents.represents_clone

end Represents

theorem lastId?_append (handlings more : List Handling) :
    lastId? (handlings ++ more) = (lastId? more).or (lastId? handlings) := by
  rw [lastId?, List.filterMap_append, List.getLast?_append]
  rfl

theorem readdressed_readdressed (long : FrameLayout.overhead ≤ bytes.length)
    (first last : Option UInt32) :
    readdressed (readdressed bytes first) last = readdressed bytes (last.or first) := by
  cases last with
  | none => rfl
  | some id =>
    cases first with
    | none => rfl
    | some earlier => exact withId_withId earlier long id

/-- **Whatever is done to a lazy frame, its fields, its bytes and its body agree.** The bytes are
those it was read from, with the last id that it was given. -/
theorem Represents.handleAll (represents : f.Represents bytes) (handlings : List Handling) :
    (f.handleAll handlings).Represents (readdressed bytes (lastId? handlings)) := by
  induction handlings generalizing f bytes with
  | nil => exact represents
  | cons a handlings ih =>
    have onward := ih (represents.handle a)
    have one : lastId? [a] = a.id? := by cases a <;> rfl
    rw [readdressed_readdressed represents.exists_header.1, ← one, ← lastId?_append] at onward
    exact onward

theorem body?_of_setId {id : UInt32} (given : f.setId id = .ok g) : g.body? = f.body? := by
  obtain ⟨bytes, -, given⟩ := bind_eq_ok_iff.mp given
  split at given
  · cases given
    rfl
  · cases given

/-- A body that has been decoded is kept. -/
theorem body?_handle {body : HeldBody} (known : f.body? = some body) (a : Handling) :
    ∃ again, (f.handle a).body? = some again ∧ again.contents = body.contents := by
  cases a with
  | decode p =>
    have same : p.decodeBody f = (.ok (body, f), p) := by
      rw [ConnectionPools.decodeBody, known]
    rw [handle, same]
    exact ⟨body, known, rfl⟩
  | setId id =>
    rw [handle]
    split
    · exact ⟨body, (body?_of_setId ‹_›).trans known, rfl⟩
    · exact ⟨body, known, rfl⟩
  | write buf offset => exact ⟨body, known, rfl⟩
  | clone => exact ⟨body.clone, by rw [handle, clone, known, Option.map_some], body.contents_clone⟩

/-- **A body is decoded once.** Whatever is done to the lazy frame afterwards, asking for the body
gives the same one again, and no pool is touched for it. -/
theorem decodeBody_again {body : HeldBody} (known : f.body? = some body)
    (handlings : List Handling) (p : ConnectionPools) : ∃ again,
      p.decodeBody (f.handleAll handlings) = (.ok (again, f.handleAll handlings), p) ∧
        again.contents = body.contents := by
  induction handlings generalizing f body with
  | nil => exact ⟨body, by rw [handleAll, List.foldl_nil, ConnectionPools.decodeBody, known], rfl⟩
  | cons a handlings ih =>
    obtain ⟨first, kept, same⟩ := body?_handle known a
    obtain ⟨again, decoded, equal⟩ := ih kept
    exact ⟨again, decoded, equal.trans same⟩

end LazyFrame

end CallWire
