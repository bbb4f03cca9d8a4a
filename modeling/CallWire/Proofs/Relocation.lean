import CallWire.Body

/-!
# Reading at another offset

Where bytes stand in a buffer only shows in what a reader reports: the same bytes read further back
give the same value, or the same error with its byte offsets further back (`Relocates`). This is
shown of the reader of each body, part by part (`Body.relocates`).
-/

namespace CallWire

/-- The error with every byte offset in it counted from `d` bytes further in front. -/
def FrameError.moveBy (d : Nat) : FrameError → FrameError
  | shortRead needed remaining offset => shortRead needed remaining (offset + d)
  | shortWrite needed remaining offset => shortWrite needed remaining (offset + d)
  | invalidUtf8 offset => invalidUtf8 (offset + d)
  | call frameId source => call frameId (source.moveBy d)
  | e => e

namespace Cursor

/-- The cursor with `d` more bytes in front of it. -/
def moveBy (d : Nat) (c : Cursor) : Cursor := { c with pos := c.pos + d }

/-- What a reader gives with `d` more bytes in front of what it reads. -/
def moveResult {α : Type} (d : Nat) : Outcome (α × Cursor) → Outcome (α × Cursor)
  | .ok (a, c) => .ok (a, c.moveBy d)
  | .error fault => .error (fault.map (.moveBy d))

end Cursor

/-- With `d` more bytes in front, `s` reads what `r` reads. -/
def Relocates {α : Type} (d : Nat) (r s : Reader α) : Prop :=
  ∀ c, s (c.moveBy d) = Cursor.moveResult d (r c)

namespace Relocates

variable {α β : Type} {d : Nat}

theorem pure (a : α) : Relocates d (pure a) (pure a) := fun _ => rfl

theorem fail (e : FrameError) : Relocates d (Reader.fail e : Reader α) (Reader.fail (e.moveBy d)) :=
  fun _ => rfl

theorem bind {r s : Reader α} {f g : α → Reader β} (first : Relocates d r s)
    (second : ∀ a, Relocates d (f a) (g a)) : Relocates d (r >>= f) (s >>= g) := by
  intro c
  show (s (c.moveBy d)).bind (fun x => g x.1 x.2) = Cursor.moveResult d ((r c).bind _)
  rw [first c]
  rcases r c with fault | ⟨a, e⟩
  · rfl
  · exact second a e

theorem map {r s : Reader α} (f : α → β) (h : Relocates d r s) :
    Relocates d (f <$> r) (f <$> s) := by
  intro c
  show (s (c.moveBy d)).bind (fun x => .ok (f x.1, x.2)) = Cursor.moveResult d ((r c).bind _)
  rw [h c]
  rcases r c with fault | ⟨a, e⟩ <;> rfl

/-- A reader that looks at its position sees that it has moved. -/
theorem position {f g : Nat → Reader β} (h : ∀ n, Relocates d (f n) (g (n + d))) :
    Relocates d (Reader.position >>= f) (Reader.position >>= g) :=
  fun c => h c.pos c

theorem atEnd : Relocates d Reader.atEnd Reader.atEnd := fun _ => rfl

theorem take (n : Nat) : Relocates d (Reader.take n) (Reader.take n) := by
  intro c
  unfold Reader.take Cursor.moveBy
  split
  · split
    · rfl
    · simp only [Cursor.moveResult, Cursor.moveBy]
      rw [Nat.add_right_comm]
  · rfl

theorem number (w : Nat) : Relocates d (Reader.number w) (Reader.number w) := (take w).map _

theorem byte : Relocates d Reader.byte Reader.byte := (number 1).map _

theorem word16 : Relocates d Reader.word16 Reader.word16 := (number 2).map _

theorem word32 : Relocates d Reader.word32 Reader.word32 := (number 4).map _

theorem tracing : Relocates d Reader.tracing Reader.tracing := (take Tracing.width).map _

end Relocates

variable {d : Nat}

theorem TextField.relocates (w : Width) : Relocates d (read w) (read w) := by
  refine (Relocates.number w.bytes).bind fun n => .position fun start => (Relocates.take n).bind ?_
  intro bs
  cases Text.decode? bs with
  | some s => exact .pure s
  | none => exact .fail (.invalidUtf8 start)

theorem Headers.readPairs_relocates (w : Width) (n : Nat) :
    Relocates d (readPairs w n) (readPairs w n) := by
  induction n with
  | zero => exact .pure []
  | succ n ih =>
    exact (TextField.relocates w).bind fun key => (TextField.relocates w).bind fun value =>
      ih.bind fun rest => .pure _

theorem Headers.relocates (w : Width) : Relocates d (read w) (read w) :=
  (Relocates.number w.bytes).bind fun n => (readPairs_relocates w n).bind fun _ => .pure _

theorem Checksum.relocates : Relocates d Checksum.read Checksum.read := by
  refine Relocates.byte.bind fun n => ?_
  cases ChecksumType.ofNumber? n with
  | none => exact .fail (.invalidChecksumType n)
  | some type =>
    cases type with
    | none => exact .pure _
    | crc32 | farmhash32 | crc32c => exact Relocates.word32.bind fun _ => .pure _

theorem Chunks.readUpTo_relocates (room : Nat) : Relocates d (readUpTo room) (readUpTo room) := by
  induction room with
  | zero =>
    refine Relocates.atEnd.bind fun last => ?_
    cases last with
    | true => exact .pure []
    | false => exact .fail (.tooManyArgs (limit + 1))
  | succ room ih =>
    refine Relocates.atEnd.bind fun last => ?_
    cases last with
    | true => exact .pure []
    | false =>
      exact (Relocates.number Width.wide.bytes).bind fun n => (Relocates.take n).bind fun chunk =>
        ih.bind fun rest => .pure _

theorem Chunks.relocates : Relocates d Chunks.read Chunks.read := readUpTo_relocates limit

theorem Handshake.relocates : Relocates d Handshake.read Handshake.read := by
  refine Relocates.word16.bind fun version => (Headers.relocates .wide).bind fun headers => ?_
  cases complete : Handshake.missingKey? ⟨version, headers⟩ with
  | some key => simpa only [complete] using .fail (.missingInitHeader key)
  | none => simpa only [complete] using .pure _

theorem CallRequest.relocates : Relocates d CallRequest.read CallRequest.read :=
  Relocates.byte.bind fun _ => Relocates.word32.bind fun _ => Relocates.tracing.bind fun _ =>
    (TextField.relocates .narrow).bind fun _ => (Headers.relocates .narrow).bind fun _ =>
      Checksum.relocates.bind fun _ => Chunks.relocates.bind fun _ => .pure _

theorem CallResponse.relocates : Relocates d CallResponse.read CallResponse.read :=
  Relocates.byte.bind fun _ => Relocates.byte.bind fun _ => Relocates.tracing.bind fun _ =>
    (Headers.relocates .narrow).bind fun _ => Checksum.relocates.bind fun _ =>
      Chunks.relocates.bind fun _ => .pure _

theorem Continuation.relocates : Relocates d Continuation.read Continuation.read :=
  Relocates.byte.bind fun _ => Checksum.relocates.bind fun _ => Chunks.relocates.bind fun _ =>
    .pure _

theorem Cancel.relocates : Relocates d Cancel.read Cancel.read :=
  Relocates.word32.bind fun _ => Relocates.tracing.bind fun _ =>
    (TextField.relocates .wide).bind fun _ => .pure _

theorem Claim.relocates : Relocates d Claim.read Claim.read :=
  Relocates.word32.bind fun _ => Relocates.tracing.bind fun _ => .pure _

theorem ErrorResponse.relocates : Relocates d ErrorResponse.read ErrorResponse.read := by
  refine Relocates.byte.bind fun n => Relocates.tracing.bind fun tracing => ?_
  cases ErrorCode.ofNumber? n with
  | none => exact .fail (.invalidErrorCode n tracing)
  | some code => exact (TextField.relocates .wide).bind fun message => .pure _

/-- **A body is read the same wherever it stands,** and refused for the same reason. -/
theorem Body.relocates (type : FrameType) : Relocates d (read type) (read type) := by
  cases type with
  | initRequest | initResponse => exact Handshake.relocates.map _
  | callRequest => exact CallRequest.relocates.map _
  | callResponse => exact CallResponse.relocates.map _
  | callRequestCont | callResponseCont => exact Continuation.relocates.map _
  | cancel => exact Cancel.relocates.map _
  | claim => exact Claim.relocates.map _
  | pingRequest | pingResponse => exact .pure _
  | errorResponse => exact ErrorResponse.relocates.map _

end CallWire
