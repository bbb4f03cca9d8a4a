import CallWire.Proofs.Writing

/-!
# Three ways to write a frame

A frame can be encoded for itself, appended to a buffer, or written over a part of one. The three
give the same bytes. The first two measure the frame first, and fail together; then nothing has
been appended, and the frame has kept its size (`Frame.encoders_agree`).

* `encodeInto_eq`: appending is encoding, with the bytes put behind those that are there;
* `fault_of_encode`: why encoding fails; what was measured is always what is written.
-/

namespace CallWire

theorem FrameError.Unfit.ne_lengthMismatch {e : FrameError} (unfit : e.Unfit)
    (measured written : Nat) : e ≠ .lengthMismatch measured written := by
  rintro rfl
  cases unfit

namespace Frame

variable {f g : Frame} {body : HeldBody} {b : Body ErrorResponse} {buf out : Bytes}
  {offset n : Nat} {fault : Fault FrameError}

/-- The frame that writing leaves. It is given its size when all of it has been written. -/
def afterwards (f : Frame) : Outcome (Nat × Frame) → Frame
  | .ok (_, g) => g
  | .error _ => f

/-- The frame that encoding leaves, whichever way. One that cannot be measured is not written. -/
def afterEncoding (f : Frame) : Frame :=
  match f.measure with
  | .error _ => f
  | .ok n => f.afterwards (f.writeAt (Bytes.zeros n) 0).2

theorem length_eq_ok_iff (held : f.body? = some body) :
    f.length = .ok n ↔ ∃ len, body.length = .ok len ∧ n = FrameLayout.overhead + len := by
  unfold length
  constructor
  · intro h
    obtain ⟨body', here, h⟩ := bind_eq_ok_iff.mp h
    rw [body_eq_ok_iff, held, Option.some.injEq] at here
    subst here
    obtain ⟨len, hlen, total⟩ := bind_eq_ok_iff.mp h
    cases total
    exact ⟨len, hlen, rfl⟩
  · rintro ⟨len, hlen, rfl⟩
    exact bind_eq_ok_iff.mpr ⟨body, body_eq_ok_iff.mpr held, bind_eq_ok_iff.mpr ⟨len, hlen, rfl⟩⟩

theorem onlyRefuse_segments (id : UInt32) (live : body.live = .ok b) :
    Segment.OnlyRefuse (segments id body) := by
  have header : Segment.OnlyRefuse
      [.byte body.frameType.number, .byte 0, .word32 id, .zeros 8] := by
    intro fault mem
    simp [Segment.byte, Segment.word32, Segment.number] at mem
  rw [segments, HeldBody.segments_of_live live]
  exact header.append b.onlyRefuse

theorem leads_segments (id : UInt32) (body : HeldBody) : Segment.Leads (segments id body) :=
  Segment.leads_put (List.cons_ne_nil _ _) _

/-- Writing a frame fails only because something does not fit. -/
theorem fault_of_writeAt (held : f.body? = some body) (live : body.live = .ok b)
    (failed : f.writeAt buf offset = (out, .error fault)) :
    ∃ e, fault = .refused e ∧ e.Unfit := by
  unfold writeAt at failed
  rw [body_eq_ok_iff.mpr held] at failed
  simp only at failed
  split at failed
  · rename_i first
    cases failed
    exact unfit_of_writeAt (leads_segments _ _) (onlyRefuse_segments _ live) first
  · rename_i stop first
    obtain ⟨all, -, -, -, rfl⟩ := (writeAt_eq_ok_iff_of_leads (leads_segments _ _)).mp first
    have behind : offset ≤ offset + FrameLayout.typeOffset + all.length := by omega
    rw [difference_eq_ok_iff.mpr ⟨behind, rfl⟩] at failed
    simp only at failed
    split at failed
    · cases failed
      exact ⟨_, rfl, .frame _⟩
    · split at failed
      · rename_i last
        cases failed
        exact unfit_of_writeAt (Segment.leads_put (List.cons_ne_nil _ _) []) (.put _) last
      · cases failed

/-- A frame cannot be measured only because something does not fit. -/
theorem fault_of_measure (held : f.body? = some body) (live : body.live = .ok b)
    (failed : f.measure = .error fault) : ∃ e, fault = .refused e ∧ e.Unfit := by
  cases measured : b.length with
  | error e =>
    unfold measure length at failed
    rw [body_eq_ok_iff.mpr held] at failed
    simp only [bind, Except.bind, HeldBody.length_of_live live, measured] at failed
    cases failed
    exact ⟨e, rfl, b.measures e measured⟩
  | ok len =>
    have length := (HeldBody.length_of_live live).trans (congrArg Outcome.ofExcept measured)
    unfold measure at failed
    rw [(length_eq_ok_iff held).mpr ⟨len, length, rfl⟩] at failed
    simp only [bind, Except.bind] at failed
    split at failed
    · cases failed
      exact ⟨_, rfl, .frame _⟩
    · cases failed

/-- What was measured is what is written. -/
theorem written_of_measure (held : f.body? = some body) (live : body.live = .ok b) {written : Nat}
    (measured : f.measure = .ok n) (done : f.writeAt (Bytes.zeros n) 0 = (out, .ok (written, g))) :
    written = n := by
  obtain ⟨body', len, held', length, rfl, -⟩ := measure_eq_ok_iff.mp measured
  rw [held, Option.some.injEq] at held'
  subst held'
  obtain ⟨bs, spelled, rfl, -, -⟩ := spelled_of_writeAt held done (Nat.le_add_right _ _)
  obtain ⟨length', -⟩ := (HeldBody.spells_iff live).mp ⟨bs, spelled, rfl⟩
  rw [length, Except.ok.injEq] at length'
  rw [length']

/-- A frame that cannot be encoded is refused because something does not fit, and keeps its size. -/
theorem fault_of_encode (held : f.body? = some body) (live : body.live = .ok b)
    (failed : f.encode = .error fault) :
    (∃ e, fault = .refused e ∧ e.Unfit) ∧ f.afterEncoding = f := by
  unfold afterEncoding
  cases measured : f.measure with
  | error first =>
    rw [encode, measured] at failed
    cases failed
    exact ⟨fault_of_measure held live measured, rfl⟩
  | ok n =>
    simp only [encode, measured, bind, Except.bind] at failed
    split at failed
    · rename_i out first done
      cases failed
      simp only [done]
      exact ⟨fault_of_writeAt held live done, rfl⟩
    · rename_i out written g done
      rw [if_pos (written_of_measure held live measured done)] at failed
      cases failed

/-- **To append a frame is to encode it and to put the bytes behind those that are there.** If it
cannot be encoded, nothing is appended. -/
theorem encodeInto_eq (f : Frame) (dst : Bytes) : f.encodeInto dst =
    match f.encode with
    | .ok (bytes, g) => (dst ++ bytes, .ok (bytes.length, g))
    | .error fault => (dst, .error fault) := by
  cases encoded : f.encode with
  | ok result => exact encodeInto_of_encode encoded dst
  | error fault =>
    simp only
    cases measured : f.measure with
    | error first =>
      rw [encode, measured] at encoded
      cases encoded
      rw [encodeInto, measured]
    | ok n =>
      simp only [encode, measured, bind, Except.bind] at encoded
      simp only [encodeInto, measured]
      split at encoded
      · rename_i out first done
        cases encoded
        rfl
      · rename_i out written g done
        split at encoded
        · cases encoded
        · rename_i differs
          cases encoded
          simp only [if_neg differs]
          rfl

theorem exists_encode_iff (held : f.body? = some body) (live : body.live = .ok b) :
    (∃ bytes g, f.encode = .ok (bytes, g)) ↔
      (∃ n, f.length = .ok n ∧ n ≤ FrameLayout.maxSize) ∧ body.Complete := by
  constructor
  · rintro ⟨bytes, g, encoded⟩
    obtain ⟨body', bs, held', spelled, length, small, -, -⟩ := encode_eq_ok_iff.mp encoded
    rw [held, Option.some.injEq] at held'
    subst held'
    obtain ⟨-, complete⟩ := (HeldBody.spells_iff live).mp ⟨bs, spelled, rfl⟩
    exact ⟨⟨_, (length_eq_ok_iff held).mpr ⟨bs.length, length, rfl⟩, small⟩, complete⟩
  · rintro ⟨⟨n, measured, small⟩, complete⟩
    obtain ⟨len, length, rfl⟩ := (length_eq_ok_iff held).mp measured
    obtain ⟨bs, spelled, rfl⟩ := (HeldBody.spells_iff live).mpr ⟨length, complete⟩
    exact ⟨_, _, encode_eq_ok_iff.mpr ⟨body, bs, held, spelled, length, small, rfl, rfl⟩⟩

/-- A frame that was encoded has the size of its bytes. -/
theorem size_of_encoded {bytes : Bytes} (encoded : f.encode = .ok (bytes, g)) :
    g = { f with size := g.size } ∧ g.size.toNat = bytes.length := by
  obtain ⟨body, bs, -, -, -, small, rfl, rfl⟩ := encode_eq_ok_iff.mp encoded
  refine ⟨rfl, ?_⟩
  rw [List.length_append, FrameHeader.length_bytes]
  exact size_headerFor f body small

/-- Wherever there is room for a frame, it is written as the bytes that it is encoded as. -/
theorem writeAt_of_encode {bytes : Bytes} (encoded : f.encode = .ok (bytes, g))
    (room : offset + bytes.length ≤ buf.length) :
    f.writeAt buf offset = (buf.take offset ++ bytes ++ buf.drop (offset + bytes.length),
      .ok (offset + bytes.length, g)) := by
  obtain ⟨body, bs, held, spelled, -, small, rfl, rfl⟩ := encode_eq_ok_iff.mp encoded
  have size : ((f.headerFor body bs).bytes ++ bs).length = FrameLayout.overhead + bs.length := by
    rw [List.length_append, FrameHeader.length_bytes]
  rw [size] at room ⊢
  exact writeAt_of_spelled held spelled room small

theorem afterEncoding_of_encode {bytes : Bytes} (encoded : f.encode = .ok (bytes, g)) :
    f.afterEncoding = g := by
  obtain ⟨body, bs, held, spelled, length, small, rfl, rfl⟩ := encode_eq_ok_iff.mp encoded
  rw [afterEncoding, measure_eq_ok_iff.mpr ⟨body, bs.length, held, length, rfl, small⟩]
  simp only [writeAt_zeros held spelled (Nat.le_refl _) small]
  rfl

/-- What the three ways to write a frame have in common. -/
structure EncodersAgree (f : Frame) (body : HeldBody) : Prop where
  /-- The frame can be encoded exactly if its size can be worked out and is not too large, and no
  header is missing. -/
  succeeds : (∃ bytes g, f.encode = .ok (bytes, g)) ↔
    (∃ n, f.length = .ok n ∧ n ≤ FrameLayout.maxSize) ∧ body.Complete
  /-- What is written always has the size that was worked out. -/
  matched : ∀ measured written, f.encode ≠ refuse (.lengthMismatch measured written) ∧
    ∀ dst, (f.encodeInto dst).2 ≠ refuse (.lengthMismatch measured written)
  /-- Appending gives the same bytes or the same fault, and then appends nothing. -/
  appends : ∀ dst, f.encodeInto dst =
    match f.encode with
    | .ok (bytes, g) => (dst ++ bytes, .ok (bytes.length, g))
    | .error fault => (dst, .error fault)
  /-- A failure is a refusal, and leaves the frame its size. -/
  fails : ∀ fault, f.encode = .error fault → (∃ e, fault = .refused e) ∧ f.afterEncoding = f
  /-- A frame that was encoded has got the size of its bytes, and nothing else. -/
  sized : ∀ bytes g, f.encode = .ok (bytes, g) →
    g = { f with size := g.size } ∧ g.size.toNat = bytes.length ∧ f.afterEncoding = g
  /-- Over any buffer with room for it, the frame is written as the same bytes, and the bytes in
  front of them and behind them stay. -/
  places : ∀ bytes g, f.encode = .ok (bytes, g) → ∀ buf offset,
    offset + bytes.length ≤ buf.length →
      f.writeAt buf offset = (buf.take offset ++ bytes ++ buf.drop (offset + bytes.length),
        .ok (offset + bytes.length, g))

/-- **The three ways to write a frame agree, and fail without a trace.** -/
theorem encoders_agree (held : f.body? = some body) (live : body.live = .ok b) :
    f.EncodersAgree body where
  succeeds := exists_encode_iff held live
  matched measured written := by
    have never : f.encode ≠ refuse (.lengthMismatch measured written) := by
      intro failed
      obtain ⟨⟨e, same, unfit⟩, -⟩ := fault_of_encode held live failed
      cases same
      exact unfit.ne_lengthMismatch measured written rfl
    refine ⟨never, ?_⟩
    intro dst failed
    rw [encodeInto_eq] at failed
    split at failed
    · cases failed
    · rename_i fault encoded
      cases failed
      exact never encoded
  appends := encodeInto_eq f
  fails fault failed := by
    obtain ⟨⟨e, same, -⟩, kept⟩ := fault_of_encode held live failed
    exact ⟨⟨e, same⟩, kept⟩
  sized bytes g encoded := by
    obtain ⟨same, size⟩ := size_of_encoded encoded
    exact ⟨same, size, afterEncoding_of_encode encoded⟩
  places bytes g encoded buf offset room := writeAt_of_encode encoded room

theorem encoders_agree_sampleRequest :
    (make 5 sampleRequest).body? = some sampleRequest ∧ (∃ b, sampleRequest.live = .ok b) ∧
      (∃ bytes g, (make 5 sampleRequest).encode = .ok (bytes, g)) ∧
      (make 5 sampleRequest).EncodersAgree sampleRequest :=
  ⟨rfl, ⟨_, rfl⟩, ⟨_, _, rfl⟩, encoders_agree rfl rfl⟩

end Frame

end CallWire
