import CallWire.Proofs.FrameHeaders

/-!
# What decoding gives

Pools serve a decoder with instances, but what it gives does not depend on them: the body is the
one that stands in the bytes, with an error response behind a handle that its pool counts
(`ConnectionPools.readBody_fst`). Where a frame lies inside its buffer, the eager and the lazy
decoder are its header and its body read one after the other (`readFrame_of_inside`,
`decodeBody_ofHeader`).
-/

namespace CallWire

namespace HeldBody

/-- Holds the error response of a body through a handle that its pool counts. -/
def pooled (b : Body ErrorResponse) : HeldBody := b.mapError (⟨some ·, true⟩)

theorem live_pooled (b : Body ErrorResponse) : (pooled b).live = .ok b := by
  cases b <;> rfl

theorem frameType_pooled (b : Body ErrorResponse) : (pooled b).frameType = b.frameType :=
  Body.frameType_mapError _ b

theorem segments_pooled (b : Body ErrorResponse) : (pooled b).segments = b.segments := by
  rw [segments, live_pooled]

theorem length_pooled (b : Body ErrorResponse) :
    (pooled b).length = Outcome.ofExcept b.length := by
  rw [length, live_pooled]
  rfl

theorem ofBody_eq_pooled {b : Body ErrorResponse} (other : b.frameType ≠ .errorResponse) :
    ofBody b = pooled b := by
  cases b with
  | error e => exact absurd rfl other
  | _ => rfl

end HeldBody

theorem Pool.counted_get {α : Type} (p : Pool α) : p.get.1.counted = true := by
  unfold Pool.get
  split <;> rfl

theorem Reader.runAt_map {α β : Type} (f : α → β) (r : Reader α) (buf : Bytes) (offset : Nat) :
    (f <$> r).runAt buf offset = (fun x => (x.1, f x.2)) <$> r.runAt buf offset := by
  unfold runAt
  rw [map_apply]
  cases r (Cursor.openAt buf offset) <;> rfl

/-- A body is of the type of the frame it was read from. -/
theorem Body.frameType_of_read {type : FrameType} {b : Body ErrorResponse} {c d : Cursor}
    (read : Body.read type c = .ok (b, d)) : b.frameType = type := by
  cases type with
  | pingRequest | pingResponse =>
    obtain ⟨rfl, -⟩ := Reader.pure_eq_ok_iff.mp read
    rfl
  | _ =>
    obtain ⟨_, -, rfl⟩ := Reader.map_eq_ok_iff.mp read
    rfl

namespace FrameHeader

/-- Reports what is wrong with the body behind the header. -/
def tagged {α : Type} (h : FrameHeader) (outcome : Outcome α) : Outcome α :=
  outcome.mapError (tagBodyError h.type h.id)

theorem tagged_ok {α : Type} (h : FrameHeader) (a : α) : h.tagged (.ok a) = .ok a := rfl

theorem tagged_error {α : Type} (h : FrameHeader) (fault : Fault FrameError) :
    h.tagged (.error fault : Outcome α) = .error (tagBodyError h.type h.id fault) := rfl

theorem tagged_eq_ok_iff {α : Type} {h : FrameHeader} {outcome : Outcome α} {a : α} :
    h.tagged outcome = .ok a ↔ outcome = .ok a := by
  cases outcome with
  | ok b => rfl
  | error fault => simp [tagged_error]

end FrameHeader

namespace ConnectionPools

variable {buf : Bytes} {offset : Nat}

theorem readBody_of_ne {type : FrameType} (other : type ≠ .errorResponse) (p : ConnectionPools)
    (buf : Bytes) (offset : Nat) :
    p.readBody type buf offset =
      ((fun x => (x.1, HeldBody.ofBody x.2)) <$> (Body.read type).runAt buf offset, p) := by
  unfold readBody
  split
  · exact absurd rfl other
  · cases (Body.read type).runAt buf offset <;> rfl

/-- **What a body is read as does not depend on the pools.** -/
theorem readBody_fst (p : ConnectionPools) (type : FrameType) (buf : Bytes) (offset : Nat) :
    (p.readBody type buf offset).1 =
      (fun x => (x.1, HeldBody.pooled x.2)) <$> (Body.read type).runAt buf offset := by
  by_cases error : type = .errorResponse
  · subst error
    have counted : p.takeError.1.counted = true := p.errors.counted_get
    rw [Body.read, Reader.runAt_map]
    unfold readBody
    cases ErrorResponse.read.runAt buf offset with
    | error fault => rfl
    | ok x => simp only [Functor.map, Except.map, HeldBody.pooled, Body.mapError, counted]
  · rw [readBody_of_ne error]
    cases read : (Body.read type).runAt buf offset with
    | error fault => rfl
    | ok x =>
      obtain ⟨c, read, -⟩ := Reader.runAt_eq_ok_iff.mp read
      have other : x.2.frameType ≠ .errorResponse := Body.frameType_of_read read ▸ error
      simp only [Functor.map, Except.map, HeldBody.ofBody_eq_pooled other]

/-- A frame is read as its header and its body, one after the other. -/
theorem readFrame_of_inside (p : ConnectionPools) (inside : FrameHeader.Inside buf offset) :
    (p.readFrame buf offset).1 = do
      let header ← FrameHeader.parse (buf.drop offset)
      let stop := offset + header.size.toNat
      let (_, body) ← header.tagged
        ((Body.read header.type).runAt (buf.take stop) (offset + FrameLayout.bodyOffset))
      return (stop, ⟨some ⟨header.size, header.id, some (.pooled body)⟩, true⟩) := by
  unfold readFrame
  rw [FrameHeader.read_eq_parse inside]
  cases parsed : FrameHeader.parse (buf.drop offset) with
  | error fault => rfl
  | ok header =>
    obtain ⟨-, size, -⟩ := FrameHeader.parse_eq_ok_iff.mp parsed
    have complete : Bytes.covers (offset + header.size.toNat) buf = true :=
      Bytes.covers_iff.mpr (size ▸ inside.2)
    have held := p.readBody_fst header.type (buf.take (offset + header.size.toNat))
      (offset + FrameLayout.bodyOffset)
    simp only [if_pos complete, bind, Except.bind]
    generalize p.readBody header.type (buf.take (offset + header.size.toNat))
      (offset + FrameLayout.bodyOffset) = result at held
    obtain ⟨outcome, q⟩ := result
    simp only at held
    subst held
    have counted : q.takeFrame.1.counted = true := q.frames.counted_get
    cases (Body.read header.type).runAt (buf.take (offset + header.size.toNat))
      (offset + FrameLayout.bodyOffset) with
    | error fault => rfl
    | ok x => simp [Functor.map, Except.map, FrameHeader.tagged_ok, pure, Except.pure, counted]

theorem truncated_eq_error (α : Type) (size : UInt16) (buf : Bytes) (offset : Nat) :
    ∃ fault, (truncated size buf offset : Outcome α) = .error fault := by
  unfold truncated
  rcases (difference buf.length offset : Outcome Nat) with fault | n
  · exact ⟨fault, rfl⟩
  · exact ⟨_, rfl⟩

/-- A frame can only be read where all of it is there. -/
theorem inside_of_readFrame {p : ConnectionPools} {stop : Nat} {h : Pooled Frame}
    (read : (p.readFrame buf offset).1 = .ok (stop, h)) : FrameHeader.Inside buf offset := by
  unfold readFrame at read
  cases header : FrameHeader.read buf offset with
  | error fault =>
    rw [header] at read
    cases read
  | ok found =>
    obtain ⟨room, size⟩ := FrameHeader.size_of_read header
    refine ⟨room, ?_⟩
    rw [← size]
    rw [header] at read
    by_cases complete : Bytes.covers (offset + found.size.toNat) buf = true
    · exact Bytes.covers_iff.mp complete
    · obtain ⟨fault, refused⟩ := truncated_eq_error (Nat × HeldBody) found.size buf offset
      simp only [if_neg complete, refused] at read
      cases read

/-- Reading a frame succeeds exactly if the frame is there and its header and body can be read. -/
theorem readFrame_eq_ok_iff {p : ConnectionPools} {stop : Nat} {h : Pooled Frame} :
    (p.readFrame buf offset).1 = .ok (stop, h) ↔
      FrameHeader.Inside buf offset ∧ ∃ header bodyStop body,
        FrameHeader.parse (buf.drop offset) = .ok header ∧ stop = offset + header.size.toNat ∧
        (Body.read header.type).runAt (buf.take stop) (offset + FrameLayout.bodyOffset) =
          .ok (bodyStop, body) ∧
        h = ⟨some ⟨header.size, header.id, some (.pooled body)⟩, true⟩ := by
  constructor
  · intro read
    have inside := inside_of_readFrame read
    rw [p.readFrame_of_inside inside] at read
    obtain ⟨header, parsed, read⟩ := bind_eq_ok_iff.mp read
    obtain ⟨⟨bodyStop, body⟩, hbody, read⟩ := bind_eq_ok_iff.mp read
    rw [FrameHeader.tagged_eq_ok_iff] at hbody
    cases read
    exact ⟨inside, header, bodyStop, body, parsed, rfl, hbody, rfl⟩
  · rintro ⟨inside, header, bodyStop, body, parsed, rfl, hbody, rfl⟩
    rw [p.readFrame_of_inside inside]
    have tagged := (FrameHeader.tagged_eq_ok_iff (h := header)).mpr hbody
    exact bind_eq_ok_iff.mpr ⟨header, parsed, bind_eq_ok_iff.mpr ⟨_, tagged, rfl⟩⟩

/-- A lazy frame is served by the pools only if it can be read. -/
theorem readLazyFrame_eq (p : ConnectionPools) (buf : Bytes) (offset : Nat) :
    p.readLazyFrame buf offset = match LazyFrame.read buf offset with
      | .ok (stop, f) => (.ok (stop, ⟨some f, true⟩), p.takeLazyFrame.2)
      | .error fault => (.error fault, p) := by
  have counted : p.takeLazyFrame.1.counted = true := p.lazyFrames.counted_get
  unfold readLazyFrame
  cases LazyFrame.read buf offset with
  | error fault => rfl
  | ok x => simp only [counted]

theorem readLazyFrame_fst (p : ConnectionPools) (buf : Bytes) (offset : Nat) :
    (p.readLazyFrame buf offset).1 = (fun x => (x.1, ⟨some x.2, true⟩)) <$>
      LazyFrame.read buf offset := by
  rw [readLazyFrame_eq]
  cases LazyFrame.read buf offset <;> rfl

/-- The body of a lazy frame is read within the bytes of the frame. -/
theorem decodeBody_ofHeader (p : ConnectionPools) (h : FrameHeader) (view : Bytes) :
    (p.decodeBody (.ofHeader h view)).1 = do
      let (_, body) ← h.tagged ((Body.read h.type).runAt view FrameLayout.bodyOffset)
      return (.pooled body, { LazyFrame.ofHeader h view with body? := some (.pooled body) }) := by
  have held := p.readBody_fst h.type view FrameLayout.bodyOffset
  unfold decodeBody
  simp only [LazyFrame.ofHeader, LazyFrame.view, bind, Except.bind, FrameHeader.tagged]
  generalize p.readBody h.type view FrameLayout.bodyOffset = result at held
  obtain ⟨outcome, q⟩ := result
  simp only at held
  subst held
  cases (Body.read h.type).runAt view FrameLayout.bodyOffset <;> rfl

end ConnectionPools

end CallWire
