import CallWire.Proofs.Decoding
import CallWire.Proofs.Relocation

/-!
# The eager and the lazy decoder agree

Both decoders amount to the same: the header that stands in front of the frame, and the body that
is read from the bytes of the frame alone (`FrameHeader.decodeAt`). The eager one reads the body
further back in a larger buffer, which only shows in the byte offsets of its errors
(`ConnectionPools.readFrame_agrees`).
-/

namespace CallWire

/-- An outcome with an offset, counted from `d` bytes further in front. -/
def Outcome.moveBy {α : Type} (d : Nat) : Outcome (Nat × α) → Outcome (Nat × α)
  | .ok (n, a) => .ok (n + d, a)
  | .error fault => .error (fault.map (.moveBy d))

/-- The same bytes behind `d` more bytes. -/
theorem Reader.runAt_relocates {α : Type} {r : Reader α} {d k : Nat} {buf view : Bytes}
    (moves : Relocates d r r) (whole : buf.length = d + view.length)
    (stands : buf.drop (d + k) = view.drop k) :
    r.runAt buf (d + k) = Outcome.moveBy d (r.runAt view k) := by
  have moved : Cursor.openAt buf (d + k) = (Cursor.openAt view k).moveBy d := by
    simp [Cursor.openAt, Cursor.moveBy, stands, Nat.add_comm, Bytes.covers_eq, whole]
  unfold runAt
  rw [moved, moves]
  rcases r (Cursor.openAt view k) with fault | ⟨a, c⟩ <;> rfl

namespace FrameHeader

theorem tagged_moveBy {α : Type} (h : FrameHeader) (d : Nat) (outcome : Outcome (Nat × α)) :
    h.tagged (Outcome.moveBy d outcome) = Outcome.moveBy d (h.tagged outcome) := by
  rcases outcome with (e | b) | ⟨n, a⟩
  · simp only [Outcome.moveBy, tagged_error, Fault.map, tagBodyError]
    split <;> rfl
  · rfl
  · rfl

/-- What stands at an offset, if it is a frame that lies inside the buffer. -/
def decodeAt (buf : Bytes) (offset : Nat) : Outcome (FrameHeader × Body ErrorResponse) := do
  let header ← parse (buf.drop offset)
  let (_, body) ← header.tagged
    ((Body.read header.type).runAt (frameAt buf offset) FrameLayout.bodyOffset)
  return (header, body)

/-- What stands there has the header that can be peeked at, and a body of its type. -/
theorem peek_of_decodeAt {buf : Bytes} {offset : Nat} {h : FrameHeader} {b : Body ErrorResponse}
    (inside : Inside buf offset) (decoded : decodeAt buf offset = .ok (h, b)) :
    peek buf offset = .ok h ∧ (HeldBody.pooled b).frameType = h.type := by
  obtain ⟨header, parsed, decoded⟩ := bind_eq_ok_iff.mp decoded
  obtain ⟨⟨n, body⟩, read, decoded⟩ := bind_eq_ok_iff.mp decoded
  cases decoded
  obtain ⟨large, declared, -⟩ := parse_eq_ok_iff.mp parsed
  rw [tagged_eq_ok_iff, Reader.runAt_eq_ok_iff] at read
  obtain ⟨c, read, -⟩ := read
  rw [peek_eq_parse (inside.room (declared ▸ Nat.not_lt.mpr large)), parsed,
    HeldBody.frameType_pooled, Body.frameType_of_read read]
  exact ⟨rfl, rfl⟩

/-- No byte outside the frame matters. -/
theorem decodeAt_congr {buf other : Bytes} {offset : Nat} (inside : Inside buf offset)
    (there : Inside other offset) (same : frameAt other offset = frameAt buf offset) :
    decodeAt other offset = decodeAt buf offset := by
  have size : declaredSize (other.drop offset) = declaredSize (buf.drop offset) := by
    apply UInt16.toNat_inj.mp
    rw [← length_frameAt there, same, length_frameAt inside]
  have header : parse (other.drop offset) = parse (buf.drop offset) := by
    by_cases small : (declaredSize (buf.drop offset)).toNat < FrameLayout.overhead
    · rw [parse, parse, size, if_pos small, if_pos small]
    · have large := Nat.not_lt.mp small
      have front : parse (frameAt other offset) = parse (other.drop offset) := by
        rw [frameAt, size, parse_take large]
      have back : parse (frameAt buf offset) = parse (buf.drop offset) := parse_take large
      rw [← front, same, back]
  rw [decodeAt, decodeAt, header, same]

/-- What is wrong with a header has no offset. -/
theorem moveBy_of_parse {bs : Bytes} {fault : Fault FrameError} (parsed : parse bs = .error fault)
    (d : Nat) : fault.map (.moveBy d) = fault := by
  unfold parse typeOf at parsed
  split at parsed
  · cases parsed
    rfl
  · cases known : FrameType.ofNumber? (declaredType bs) with
    | none =>
      rw [known] at parsed
      cases parsed
      rfl
    | some type =>
      rw [known] at parsed
      cases parsed

end FrameHeader

namespace ConnectionPools

variable {buf : Bytes} {offset : Nat}

/-- Reads the lazy frame at `offset` and decodes its body. -/
def readLazily (p : ConnectionPools) (buf : Bytes) (offset : Nat) :
    Outcome (Nat × LazyFrame × HeldBody) := do
  let (stop, h) ← (p.readLazyFrame buf offset).1
  let (body, frame) ← ((p.readLazyFrame buf offset).2.decodeBody (← h.get)).1
  return (stop, frame, body)

/-- What the eager decoder makes of what stands there. -/
theorem readFrame_eq_decodeAt (p : ConnectionPools) (inside : FrameHeader.Inside buf offset) :
    (p.readFrame buf offset).1 = match FrameHeader.decodeAt buf offset with
      | .ok (header, body) => .ok (offset + header.size.toNat,
          ⟨some ⟨header.size, header.id, some (.pooled body)⟩, true⟩)
      | .error fault => .error (fault.map (.moveBy offset)) := by
  rw [p.readFrame_of_inside inside]
  unfold FrameHeader.decodeAt
  cases parsed : FrameHeader.parse (buf.drop offset) with
  | error fault =>
    simp only [bind, Except.bind]
    rw [FrameHeader.moveBy_of_parse parsed]
  | ok header =>
    obtain ⟨-, declared, -⟩ := FrameHeader.parse_eq_ok_iff.mp parsed
    have length := FrameHeader.length_frameAt inside
    have ends := inside.2
    rw [declared] at length ends
    have moved := Reader.runAt_relocates (k := FrameLayout.bodyOffset)
      (Body.relocates header.type)
      (show (buf.take (offset + header.size.toNat)).length =
          offset + (FrameHeader.frameAt buf offset).length by
        rw [length, List.length_take, Nat.min_eq_left ends])
      (FrameHeader.drop_take_eq_frameAt declared _)
    simp only [bind, Except.bind, moved, FrameHeader.tagged_moveBy]
    rcases header.tagged ((Body.read header.type).runAt (FrameHeader.frameAt buf offset)
      FrameLayout.bodyOffset) with fault | ⟨n, body⟩ <;> rfl

/-- What the lazy decoder makes of it. -/
theorem readLazily_eq_decodeAt (p : ConnectionPools) (inside : FrameHeader.Inside buf offset) :
    p.readLazily buf offset = match FrameHeader.decodeAt buf offset with
      | .ok (header, body) => .ok (offset + header.size.toNat,
          { LazyFrame.ofHeader header (FrameHeader.frameAt buf offset) with
            body? := some (.pooled body) }, .pooled body)
      | .error fault => .error fault := by
  unfold readLazily FrameHeader.decodeAt
  rw [readLazyFrame_fst, LazyFrame.read_eq_parse inside]
  cases FrameHeader.parse (buf.drop offset) with
  | error fault => rfl
  | ok header =>
    simp only [Functor.map, Except.map, bind, Except.bind, Pooled.get, decodeBody_ofHeader]
    rcases header.tagged ((Body.read header.type).runAt (FrameHeader.frameAt buf offset)
      FrameLayout.bodyOffset) with fault | ⟨n, body⟩ <;> rfl

theorem inside_of_readLazily {p : ConnectionPools} {x : Nat × LazyFrame × HeldBody}
    (read : p.readLazily buf offset = .ok x) : FrameHeader.Inside buf offset := by
  obtain ⟨⟨stop, h⟩, read, -⟩ := bind_eq_ok_iff.mp read
  rw [readLazyFrame_fst] at read
  cases lazy : LazyFrame.read buf offset with
  | error fault =>
    rw [lazy] at read
    cases read
  | ok y => exact LazyFrame.inside_of_read lazy

/-- What stands inside the buffer, both decoders read, or both refuse. -/
theorem outcomes_of_inside (p q : ConnectionPools) (inside : FrameHeader.Inside buf offset) :
    (∃ header body, FrameHeader.peek buf offset = .ok header ∧ body.frameType = header.type ∧
      (p.readFrame buf offset).1 = .ok (offset + header.size.toNat,
        ⟨some ⟨header.size, header.id, some body⟩, true⟩) ∧
      q.readLazily buf offset = .ok (offset + header.size.toNat,
        { LazyFrame.ofHeader header (FrameHeader.frameAt buf offset) with body? := some body },
        body)) ∨
    ∃ fault, (p.readFrame buf offset).1 = .error (fault.map (.moveBy offset)) ∧
      q.readLazily buf offset = .error fault := by
  rw [p.readFrame_eq_decodeAt inside, q.readLazily_eq_decodeAt inside]
  rcases decoded : FrameHeader.decodeAt buf offset with fault | ⟨header, body⟩
  · exact Or.inr ⟨fault, rfl, rfl⟩
  · obtain ⟨peeked, type⟩ := FrameHeader.peek_of_decodeAt inside decoded
    exact Or.inl ⟨header, .pooled body, peeked, type, rfl, rfl⟩

/-- What the eager decoder, served by `p`, and the lazy one, served by `q`, make of what stands at
an offset. -/
structure Agree (p q : ConnectionPools) (buf : Bytes) (offset : Nat) : Prop where
  /-- One succeeds exactly if the other does. -/
  succeed : (∃ stop h, (p.readFrame buf offset).1 = .ok (stop, h)) ↔
    ∃ stop f body, q.readLazily buf offset = .ok (stop, f, body)
  /-- Then they give the same, and so does a look at the header. -/
  same : ∀ stop h lazyStop f body, (p.readFrame buf offset).1 = .ok (stop, h) →
    q.readLazily buf offset = .ok (lazyStop, f, body) →
      lazyStop = stop ∧ ∃ header, FrameHeader.peek buf offset = .ok header ∧
        h.value? = some ⟨header.size, header.id, some body⟩ ∧ body.frameType = header.type ∧
        f.size = header.size ∧ f.type? = some header.type ∧ f.id = header.id ∧
        f.body? = some body
  /-- Inside the buffer, the eager one fails with the error of the lazy one, whose byte offsets
  count from the start of the frame instead of the start of the buffer. -/
  eager : FrameHeader.Inside buf offset → ∀ fault, q.readLazily buf offset = .error fault →
    (p.readFrame buf offset).1 = .error (fault.map (.moveBy offset))
  /-- The lazy one fails with the error of the eager one. -/
  lazy : FrameHeader.Inside buf offset → ∀ fault, (p.readFrame buf offset).1 = .error fault →
    ∃ cause, q.readLazily buf offset = .error cause ∧ fault = cause.map (.moveBy offset)
  /-- No byte outside the frame matters to either. -/
  within : FrameHeader.Inside buf offset → ∀ other, FrameHeader.Inside other offset →
    FrameHeader.frameAt other offset = FrameHeader.frameAt buf offset →
      (p.readFrame other offset).1 = (p.readFrame buf offset).1 ∧
        q.readLazily other offset = q.readLazily buf offset

/-- **The eager and the lazy decoder agree,** wherever in a buffer they read. -/
theorem readFrame_agrees (p q : ConnectionPools) (buf : Bytes) (offset : Nat) :
    Agree p q buf offset where
  succeed := by
    constructor
    · rintro ⟨stop, h, read⟩
      obtain ⟨_, _, -, -, -, lazy⟩ | ⟨fault, eager, -⟩ :=
        outcomes_of_inside p q (inside_of_readFrame read)
      · exact ⟨_, _, _, lazy⟩
      · cases eager.symm.trans read
    · rintro ⟨stop, f, body, read⟩
      obtain ⟨_, _, -, -, eager, -⟩ | ⟨fault, -, lazy⟩ :=
        outcomes_of_inside p q (inside_of_readLazily read)
      · exact ⟨_, _, eager⟩
      · cases lazy.symm.trans read
  same := by
    intro stop h lazyStop f body read readLazily
    obtain ⟨header, _, peeked, type, eager, lazy⟩ | ⟨fault, eager, -⟩ :=
      outcomes_of_inside p q (inside_of_readFrame read)
    · cases eager.symm.trans read
      cases lazy.symm.trans readLazily
      exact ⟨rfl, header, peeked, rfl, type, rfl, rfl, rfl, rfl⟩
    · cases eager.symm.trans read
  eager := by
    intro inside fault readLazily
    obtain ⟨_, _, -, -, -, lazy⟩ | ⟨cause, eager, lazy⟩ := outcomes_of_inside p q inside
    · cases lazy.symm.trans readLazily
    · cases lazy.symm.trans readLazily
      exact eager
  lazy := by
    intro inside fault read
    obtain ⟨_, _, -, -, eager, -⟩ | ⟨cause, eager, lazy⟩ := outcomes_of_inside p q inside
    · cases eager.symm.trans read
    · cases eager.symm.trans read
      exact ⟨cause, lazy, rfl⟩
  within := by
    intro inside other there same
    rw [p.readFrame_eq_decodeAt there, p.readFrame_eq_decodeAt inside,
      q.readLazily_eq_decodeAt there, q.readLazily_eq_decodeAt inside,
      FrameHeader.decodeAt_congr inside there same, same]
    exact ⟨rfl, rfl⟩

/-- A claim whose tracing value is missing, behind a byte that belongs to something else. -/
def shortClaim : Bytes :=
  [1] ++ [0, 20, FrameType.claim.number, 0, 0, 0, 0, 5] ++ Bytes.zeros 8 ++ [0, 0, 1, 0] ++ [9]

theorem readFrame_agrees_shortClaim :
    FrameHeader.Inside shortClaim 1 ∧
      empty.readLazily shortClaim 1 = .error (.refused (.call 5 (.shortRead 25 0 20))) ∧
      (empty.readFrame shortClaim 1).1 = .error (.refused (.call 5 (.shortRead 25 0 21))) := by
  have inside : FrameHeader.Inside shortClaim 1 := by
    constructor <;> decide
  have lazy : empty.readLazily shortClaim 1 = .error (.refused (.call 5 (.shortRead 25 0 20))) :=
    rfl
  exact ⟨inside, lazy, (readFrame_agrees empty empty shortClaim 1).eager inside _ lazy⟩

end ConnectionPools

end CallWire
