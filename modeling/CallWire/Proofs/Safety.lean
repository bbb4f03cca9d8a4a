import CallWire.Proofs.Encoders
import CallWire.Proofs.Handling
import CallWire.Proofs.PoolLedger
import CallWire.Proofs.Refusals

/-!
# No byte outside of a buffer is asked for

To take no bytes, or to put none down, is a breach beyond the end of a buffer
(`ConnectionPools.Guarded.hazard`), and texts and chunks may be empty. Still no reader or writer ever
gets there: whatever the bytes are and wherever they are looked for, it returns a value or refuses
(`ConnectionPools.guarded`).

* `Outcome.Returns`: what is shown of every operation;
* `LazyFrame.Arises`: the lazy frames that there are, all of them with a whole header or none.
-/

namespace CallWire

namespace Outcome

variable {α β : Type}

/-- The operation returns a value or refuses; no contract is broken. -/
def Returns (outcome : Outcome α) : Prop := (∃ a, outcome = .ok a) ∨ ∃ e, outcome = refuse e

namespace Returns

theorem ok (a : α) : Returns (.ok a) := .inl ⟨a, rfl⟩

theorem refuse (e : FrameError) : Returns (CallWire.refuse e : Outcome α) := .inr ⟨e, rfl⟩

/-- Only the failures have to be looked at. -/
theorem of_error {outcome : Outcome α} (refused : ∀ fault, outcome = .error fault →
    ∃ e, fault = .refused e) : outcome.Returns := by
  cases outcome with
  | ok a => exact .ok a
  | error fault =>
    obtain ⟨e, rfl⟩ := refused fault rfl
    exact .refuse e

theorem bind {outcome : Outcome α} {next : α → Outcome β} (first : outcome.Returns)
    (second : ∀ a, outcome = .ok a → (next a).Returns) : Returns (outcome >>= next) := by
  obtain ⟨a, rfl⟩ | ⟨e, rfl⟩ := first
  · exact second a rfl
  · exact .refuse e

theorem map {outcome : Outcome α} (f : α → β) (h : outcome.Returns) :
    Returns (f <$> outcome) := by
  obtain ⟨a, rfl⟩ | ⟨e, rfl⟩ := h
  · exact .ok (f a)
  · exact .refuse e

end Returns

theorem not_returns_breach (b : Breach) : ¬ Returns (.error (.breach b) : Outcome α) := by
  rintro (⟨a, same⟩ | ⟨e, same⟩)
  · cases same
  · cases same

end Outcome

open Outcome (Returns)

/-! ### Reading -/

/-- A reader that begins with a byte returns wherever it is put. -/
theorem Reader.OnlyRefuses.returns {α : Type} {kind : FrameError → Prop} {r : Reader α}
    (only : OnlyRefuses kind r) (needs : NeedsByte r) (buf : Bytes) (offset : Nat) :
    Returns (r.runAt buf offset) := by
  apply Returns.of_error
  intro fault failed
  rw [runAt_eq_error_iff] at failed
  have any : OnlyRefuses (fun _ => True) r := only.mono fun _ _ => trivial
  obtain ⟨e, same, -⟩ := any.fault_openAt needs (fun _ => trivial) failed
  exact ⟨e, same⟩

theorem Reader.returns_byte (buf : Bytes) (offset : Nat) : Returns (byte.runAt buf offset) :=
  OnlyRefuses.byte.returns .byte buf offset

theorem Reader.returns_word32 (buf : Bytes) (offset : Nat) : Returns (word32.runAt buf offset) :=
  OnlyRefuses.word32.returns .word32 buf offset

namespace FrameHeader

variable (buf : Bytes) (offset : Nat)

theorem returns_readSize : Returns (readSize.runAt buf offset) := by
  have any {α : Type} {r : Reader α} (h : Reader.OnlyRefuses FrameError.Malformed r) :
      Reader.OnlyRefuses (fun _ => True) r := h.mono fun _ _ => trivial
  have only : Reader.OnlyRefuses (fun _ => True) readSize := by
    apply (any .word16).bind
    intro size
    split
    · exact .fail trivial
    · exact .pure size
  exact only.returns (Reader.NeedsByte.word16.bind _) buf offset

theorem returns_typeOf (n : UInt8) : Returns (typeOf n) := by
  unfold typeOf
  split
  · exact .ok _
  · exact .refuse _

theorem returns_peek : Returns (peek buf offset) := by
  have whole := (Reader.OnlyRefuses.take FrameLayout.overhead).returns (.take (by decide)) buf offset
  apply whole.bind
  intro _ _
  apply (returns_readSize buf _).bind
  intro size _
  apply (Reader.returns_byte buf _).bind
  intro n _
  apply (Reader.returns_word32 buf _).bind
  intro id _
  apply (returns_typeOf _).bind
  intro type _
  exact .ok _

end FrameHeader

theorem LazyFrame.returns_view (f : LazyFrame) : Returns f.view := by
  unfold view
  split
  · exact .ok _
  · exact .refuse _

theorem LazyFrame.returns_read (buf : Bytes) (offset : Nat) :
    Returns (LazyFrame.read buf offset) := by
  apply (FrameHeader.returns_readSize buf offset).bind
  rintro ⟨next, size⟩ sized
  have room := FrameHeader.room_of_readSize sized
  simp only
  split
  · apply (Reader.returns_byte _ _).bind
    intro n _
    apply (FrameHeader.returns_typeOf _).bind
    intro type _
    apply (Reader.returns_word32 _ _).bind
    intro id _
    exact .ok _
  · have inside : offset ≤ buf.length := by omega
    rw [truncated_eq size inside]
    exact .refuse _

namespace ConnectionPools

variable (p : ConnectionPools) (buf : Bytes) (offset : Nat)

theorem returns_readBody (type : FrameType) : Returns (p.readBody type buf offset).1 := by
  rw [readBody_fst]
  apply Returns.map
  apply Returns.of_error
  intro fault failed
  obtain ⟨e, same, -⟩ := Body.fault_of_read failed
  exact ⟨e, same⟩

/-- An error response that could not be read is given back once. -/
theorem returns_giveBack : Returns (p.takeError.2.freeError p.takeError.1).1 := by
  obtain ⟨blank, handle⟩ : ∃ e, p.takeError.1 = ⟨some e, true⟩ := p.errors.exists_get
  rw [freeError, Pool.free, handle]
  exact .ok _

theorem returns_readFrame : Returns (p.readFrame buf offset).1 := by
  apply Returns.of_error
  intro fault failed
  obtain ⟨e, same, -⟩ := fails_of_readFrame failed
  exact ⟨e, same⟩

theorem returns_readLazyFrame : Returns (p.readLazyFrame buf offset).1 := by
  rw [readLazyFrame_fst]
  exact (LazyFrame.returns_read buf offset).map _

theorem returns_decodeBody (f : LazyFrame) : Returns (p.decodeBody f).1 := by
  unfold decodeBody
  cases f.body? with
  | some body => exact .ok _
  | none =>
    obtain ⟨bytes, viewed⟩ | ⟨e, viewed⟩ := f.returns_view
    · cases f.type? with
      | none =>
        simp only [viewed]
        exact .refuse _
      | some type =>
        simp only [viewed]
        have body := p.returns_readBody bytes FrameLayout.bodyOffset type
        generalize p.readBody type bytes FrameLayout.bodyOffset = result at body
        obtain ⟨outcome, q⟩ := result
        obtain ⟨x, rfl⟩ | ⟨e, rfl⟩ := body
        · exact .ok _
        · exact .refuse _
    · simp only [viewed]
      exact .refuse e

end ConnectionPools

theorem FrameSplitter.returns_next (s : FrameSplitter) (p : ConnectionPools) :
    Returns (s.next p).1 := by
  rcases s.next_cases p with ⟨-, next, -⟩ | ⟨-, next, -⟩ | ⟨_, -, -, ⟨f, -, next, -⟩ | ⟨n, -, next, -⟩⟩
  · exact next ▸ .ok _
  · exact next ▸ .refuse _
  · exact next ▸ .ok _
  · exact next ▸ .refuse _

namespace LazyFrame

variable (f : LazyFrame)

theorem returns_errorTracing : Returns f.errorTracing := by
  apply f.returns_view.bind
  intro bytes _
  apply (Reader.OnlyRefuses.tracing.returns .tracing _ _).bind
  intro tracing _
  exact .ok _

theorem returns_errorMessage : Returns f.errorMessage := by
  apply f.returns_view.bind
  intro bytes _
  apply ((TextField.onlyRefuses .wide).returns (TextField.needsByte .wide) _ _).bind
  intro message _
  exact .ok _

theorem returns_errorCode : Returns f.errorCode := by
  apply f.returns_view.bind
  intro bytes _
  apply (Reader.returns_byte _ _).bind
  intro n _
  simp only
  split
  · exact .ok _
  · exact .refuse _
  · exact .refuse _

end LazyFrame

/-! ### Writing -/

theorem HeldBody.returns_writeAt {body : HeldBody} {b : Body ErrorResponse}
    (live : body.live = .ok b) (buf : Bytes) (offset : Nat) :
    Returns (CallWire.writeAt body.segments buf offset).2 := by
  apply Returns.of_error
  intro fault failed
  obtain ⟨e, same, -⟩ := unfit_of_writeAt live (Prod.ext rfl failed)
  exact ⟨e, same⟩

namespace Frame

variable {f : Frame}

/-- The body of the frame, if it has one, has not been given back. -/
def Live (f : Frame) : Prop := ∀ body, f.body? = some body → ∃ b, body.live = .ok b

theorem returns_writeAt (live : f.Live) (buf : Bytes) (offset : Nat) :
    Returns (f.writeAt buf offset).2 := by
  cases held : f.body? with
  | none =>
    rw [writeAt, body, held]
    exact .refuse _
  | some body =>
    obtain ⟨b, live⟩ := live body held
    apply Returns.of_error
    intro fault failed
    obtain ⟨e, same, -⟩ := fault_of_writeAt held live (Prod.ext rfl failed)
    exact ⟨e, same⟩

theorem returns_encode (live : f.Live) : Returns f.encode := by
  cases held : f.body? with
  | none =>
    rw [encode, measure, length, body, held]
    exact .refuse _
  | some body =>
    obtain ⟨b, live⟩ := live body held
    apply Returns.of_error
    intro fault failed
    obtain ⟨⟨e, same, -⟩, -⟩ := fault_of_encode held live failed
    exact ⟨e, same⟩

theorem returns_encodeInto (live : f.Live) (dst : Bytes) : Returns (f.encodeInto dst).2 := by
  rw [encodeInto_eq]
  obtain ⟨⟨bytes, g⟩, encoded⟩ | ⟨e, encoded⟩ := returns_encode live
  · rw [encoded]
    exact .ok _
  · rw [encoded]
    exact .refuse e

end Frame

namespace LazyFrame

variable {f : LazyFrame}

/-- The lazy frames that there are: one that a pool hands out unfilled, one that was read or split
off a stream, and what becomes of these. -/
inductive Arises : LazyFrame → Prop
  | unfilled : Arises blank
  | obtained {f : LazyFrame} {original : Bytes} : Obtained f original → Arises f
  | handled {f : LazyFrame} (a : Handling) : Arises f → Arises (f.handle a)

theorem handle_blank (a : Handling) : blank.handle a = blank := by
  cases a <;> rfl

/-- A lazy frame has no bytes at all, or those of a frame with a whole header. -/
theorem Arises.blank_or_represents (arises : Arises f) :
    f = blank ∨ ∃ bytes, f.Represents bytes := by
  induction arises with
  | unfilled => exact .inl rfl
  | obtained obtained => exact .inr ⟨_, obtained.represents⟩
  | handled a _ ih =>
    rcases ih with rfl | ⟨bytes, represents⟩
    · exact .inl (handle_blank a)
    · exact .inr ⟨_, represents.handle a⟩

theorem Arises.returns_writeAt (arises : Arises f) (buf : Bytes) (offset : Nat) :
    Returns (f.writeAt buf offset).2 := by
  rcases arises.blank_or_represents with rfl | ⟨bytes, represents⟩
  · exact .refuse _
  · by_cases room : offset + bytes.length ≤ buf.length
    · rw [represents.writeAt_of_room room]
      exact .ok _
    · rw [represents.writeAt_of_short (Nat.not_le.mp room)]
      exact .refuse _

theorem Arises.returns_setId (arises : Arises f) (id : UInt32) : Returns (f.setId id) := by
  rcases arises.blank_or_represents with rfl | ⟨bytes, represents⟩
  · exact .refuse _
  · rw [represents.setId_eq id]
    exact .ok _

end LazyFrame

/-- Beyond the end of a buffer not even no bytes may be taken, or put down. -/
theorem breach_of_beyond {buf : Bytes} {offset : Nat} (beyond : buf.length < offset) :
    (Reader.take 0).runAt buf offset = .error (.breach .outOfRange) ∧
      (writeAt [.put []] buf offset).2 = .error (.breach .outOfRange) ∧
      (writeAt [.zeros 0] buf offset).2 = .error (.breach .outOfRange) := by
  have outside : Bytes.covers offset buf = false := by
    rw [Bytes.covers_eq, decide_eq_false_iff_not]
    omega
  refine ⟨?_, ?_, ?_⟩
  · simp [Reader.runAt, Reader.take, Cursor.openAt, outside, Bytes.covers]
  · simp [writeAt, Pen.write, Pen.put, Pen.openAt, outside, Bytes.covers]
  · simp [writeAt, Pen.write, Pen.putZeros_eq, Pen.put, Pen.openAt, outside, Bytes.covers,
      Bytes.zeros]

namespace ConnectionPools

/-- Every reader and every writer returns, with any buffer and at any offset. -/
structure Guarded (p : ConnectionPools) (buf : Bytes) (offset : Nat) : Prop where
  body : ∀ type, Returns (p.readBody type buf offset).1
  /-- An error response that could not be read is given back, and not a second time. -/
  givenBack : Returns (p.takeError.2.freeError p.takeError.1).1
  frame : Returns (p.readFrame buf offset).1
  header : Returns (FrameHeader.peek buf offset)
  lazyFrame : Returns (p.readLazyFrame buf offset).1
  split : ∀ s : FrameSplitter, Returns (s.next p).1
  decoded : ∀ f : LazyFrame, Returns (p.decodeBody f).1
  rawFields : ∀ f : LazyFrame,
    Returns f.errorCode ∧ Returns f.errorTracing ∧ Returns f.errorMessage
  /-- A body is written if it has not been given back. -/
  bodyWritten : ∀ body : HeldBody, (∃ b, body.live = .ok b) →
    Returns (writeAt body.segments buf offset).2
  frameWritten : ∀ f : Frame, f.Live →
    Returns (f.writeAt buf offset).2 ∧ Returns f.encode ∧ Returns (f.encodeInto buf).2
  forwarded : ∀ f : LazyFrame, f.Arises →
    Returns (f.writeAt buf offset).2 ∧ ∀ id, Returns (f.setId id)
  /-- Nothing would return that took or put down no bytes beyond the end. -/
  hazard : buf.length < offset →
    ¬ Returns ((Reader.take 0).runAt buf offset) ∧ ¬ Returns (writeAt [.put []] buf offset).2 ∧
      ¬ Returns (writeAt [.zeros 0] buf offset).2

/-- **No reader and no writer asks for bytes outside of a buffer**, whatever is in it and wherever
the offset lies. -/
theorem guarded (p : ConnectionPools) (buf : Bytes) (offset : Nat) : p.Guarded buf offset where
  body := p.returns_readBody buf offset
  givenBack := p.returns_giveBack
  frame := p.returns_readFrame buf offset
  header := FrameHeader.returns_peek buf offset
  lazyFrame := p.returns_readLazyFrame buf offset
  split s := s.returns_next p
  decoded f := p.returns_decodeBody f
  rawFields f := ⟨f.returns_errorCode, f.returns_errorTracing, f.returns_errorMessage⟩
  bodyWritten body := by
    rintro ⟨b, live⟩
    exact HeldBody.returns_writeAt live buf offset
  frameWritten f live :=
    ⟨Frame.returns_writeAt live buf offset, Frame.returns_encode live,
      Frame.returns_encodeInto live buf⟩
  forwarded f arises := ⟨arises.returns_writeAt buf offset, arises.returns_setId⟩
  hazard beyond := by
    obtain ⟨taken, put, zeros⟩ := breach_of_beyond beyond
    rw [taken, put, zeros]
    exact ⟨Outcome.not_returns_breach _, Outcome.not_returns_breach _,
      Outcome.not_returns_breach _⟩

/-- A text may be empty. Beyond the end of a buffer it is neither read nor written. -/
theorem guarded_beyond :
    (∃ e, (empty.readBody .cancel [1, 2] 9).1 = refuse e) ∧
      (∃ e, (writeAt (HeldBody.ofBody (.cancel ⟨0, .empty, ""⟩)).segments [1, 2] 9).2 =
        refuse e) ∧
      ¬ Returns ((Reader.take 0).runAt [1, 2] 9) := by
  have safe := guarded empty [1, 2] 9
  refine ⟨?_, ?_, (safe.hazard (by decide)).1⟩
  · obtain ⟨a, read⟩ | refused := safe.body .cancel
    · cases read
    · exact refused
  · obtain ⟨a, written⟩ | refused := safe.bodyWritten (.ofBody (.cancel ⟨0, .empty, ""⟩)) ⟨_, rfl⟩
    · cases written
    · exact refused

end ConnectionPools

end CallWire
