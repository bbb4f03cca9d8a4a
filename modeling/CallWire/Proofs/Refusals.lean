import CallWire.Proofs.RawFields

/-!
# What reading is refused for

Wherever a reader is put, it reads a value or says what is wrong with the bytes; it never asks for
bytes outside of the buffer. Inside of the buffer this holds part by part (`Reader.OnlyRefuses`).
Beyond its end no byte is left, and everything that is read there begins with one
(`Reader.NeedsByte`), so that nothing is asked for but what is refused.

* `Body.fault_of_read`: what is reported of a body, at any offset in any buffer;
* `FrameHeader.headerRead`: how reading a header comes out, by how much of it is there.
-/

namespace CallWire

/-- The errors that say what is wrong with the bytes of a field or of a body. -/
inductive FrameError.Malformed : FrameError → Prop
  | short (needed remaining offset : Nat) : Malformed (.shortRead needed remaining offset)
  | text (offset : Nat) : Malformed (.invalidUtf8 offset)
  | args (count : Nat) : Malformed (.tooManyArgs count)
  | checksum (number : UInt8) : Malformed (.invalidChecksumType number)
  | missing (field : String) : Malformed (.missingInitHeader field)

/-- The errors of a body. Only that of an error frame has a code, which may be undefined. -/
inductive FrameError.Misread : FrameType → FrameError → Prop
  | malformed {type : FrameType} {e : FrameError} : e.Malformed → Misread type e
  | code (number : UInt8) (tracing : Tracing) :
      Misread .errorResponse (.invalidErrorCode number tracing)

namespace Reader

variable {α β : Type} {kind other : FrameError → Prop} {r : Reader α}

/-- Inside of the buffer the reader stays inside, and fails only with errors of this kind. -/
structure OnlyRefuses (kind : FrameError → Prop) (r : Reader α) : Prop where
  stays : ∀ {c d a}, c.beyond = false → r c = .ok (a, d) → d.beyond = false
  refused : ∀ {c fault}, c.beyond = false → r c = .error fault → ∃ e, fault = .refused e ∧ kind e

/-- Where nothing is left the reader is refused, for it needs at least one byte. -/
def NeedsByte (r : Reader α) : Prop :=
  ∀ c, c.ahead = [] → ∃ needed, r c = refuse (.shortRead needed 0 c.pos)

/-- A reader made of two fails where the first does, or where the second does behind it. -/
theorem bind_eq_error_iff {f : α → Reader β} {c : Cursor} {fault : Fault FrameError} :
    (r >>= f) c = .error fault ↔
      r c = .error fault ∨ ∃ a d, r c = .ok (a, d) ∧ f a d = .error fault := by
  show r c >>= (fun p => f p.1 p.2) = .error fault ↔ _
  cases r c with
  | ok x =>
    obtain ⟨a, d⟩ := x
    simp [bind, Except.bind]
  | error first => simp [bind, Except.bind]

theorem map_eq_error_iff {f : α → β} {c : Cursor} {fault : Fault FrameError} :
    (f <$> r) c = .error fault ↔ r c = .error fault := by
  rw [map_apply]
  cases r c with
  | ok x => simp [Functor.map, Except.map]
  | error first => simp [Functor.map, Except.map]

theorem runAt_eq_error_iff {buf : Bytes} {offset : Nat} {fault : Fault FrameError} :
    r.runAt buf offset = .error fault ↔ r (Cursor.openAt buf offset) = .error fault := by
  unfold runAt
  cases r (Cursor.openAt buf offset) with
  | ok x => simp
  | error first => simp

namespace OnlyRefuses

theorem pure (a : α) : OnlyRefuses kind (pure a) where
  stays inside read := by
    cases read
    exact inside
  refused _ failed := by cases failed

theorem fail {e : FrameError} (known : kind e) : OnlyRefuses kind (Reader.fail e : Reader α) where
  stays _ read := by cases read
  refused _ failed := by
    cases failed
    exact ⟨e, rfl, known⟩

theorem bind {f : α → Reader β} (first : OnlyRefuses kind r)
    (second : ∀ a, OnlyRefuses kind (f a)) : OnlyRefuses kind (r >>= f) where
  stays inside read := by
    obtain ⟨a, d, before, after⟩ := bind_eq_ok_iff.mp read
    exact (second a).stays (first.stays inside before) after
  refused inside failed := by
    rcases bind_eq_error_iff.mp failed with failed | ⟨a, d, before, failed⟩
    · exact first.refused inside failed
    · exact (second a).refused (first.stays inside before) failed

theorem map (f : α → β) (h : OnlyRefuses kind r) : OnlyRefuses kind (f <$> r) := by
  rw [map_eq_pure_bind]
  exact h.bind fun a => .pure (f a)

theorem mono (h : OnlyRefuses kind r) (more : ∀ e, kind e → other e) : OnlyRefuses other r where
  stays := h.stays
  refused inside failed := by
    obtain ⟨e, same, known⟩ := h.refused inside failed
    exact ⟨e, same, more e known⟩

theorem position : OnlyRefuses kind Reader.position where
  stays inside read := by
    cases read
    exact inside
  refused _ failed := by cases failed

theorem atEnd : OnlyRefuses kind Reader.atEnd where
  stays inside read := by
    cases read
    exact inside
  refused _ failed := by cases failed

theorem take (n : Nat) : OnlyRefuses FrameError.Malformed (Reader.take n) where
  stays inside read := (take_spans inside read).2.inside
  refused inside failed := by
    unfold Reader.take at failed
    rw [inside] at failed
    split at failed
    · cases failed
    · cases failed
      exact ⟨_, rfl, .short _ _ _⟩

theorem number (w : Nat) : OnlyRefuses FrameError.Malformed (Reader.number w) := (take w).map _

theorem byte : OnlyRefuses FrameError.Malformed Reader.byte := (number 1).map _

theorem word16 : OnlyRefuses FrameError.Malformed Reader.word16 := (number 2).map _

theorem word32 : OnlyRefuses FrameError.Malformed Reader.word32 := (number 4).map _

theorem tracing : OnlyRefuses FrameError.Malformed Reader.tracing := (take Tracing.width).map _

theorem count (w : Width) : OnlyRefuses FrameError.Malformed (Reader.count w) := number w.bytes

end OnlyRefuses

namespace NeedsByte

/-- What comes after the first byte is not reached. -/
theorem bind (h : NeedsByte r) (f : α → Reader β) : NeedsByte (r >>= f) := by
  intro c empty
  obtain ⟨needed, short⟩ := h c empty
  exact ⟨needed, bind_eq_error_iff.mpr (.inl short)⟩

theorem map (h : NeedsByte r) (f : α → β) : NeedsByte (f <$> r) := by
  rw [map_eq_pure_bind]
  exact h.bind _

theorem take {n : Nat} (nonzero : n ≠ 0) : NeedsByte (Reader.take n) := by
  intro c empty
  have short : Bytes.covers n [] = false := by
    rw [Bytes.covers_eq, List.length_nil, decide_eq_false_iff_not]
    omega
  refine ⟨n, ?_⟩
  simp [Reader.take, empty, short]

theorem number {w : Nat} (nonzero : w ≠ 0) : NeedsByte (Reader.number w) := (take nonzero).map _

theorem byte : NeedsByte Reader.byte := (number (by decide)).map _

theorem word16 : NeedsByte Reader.word16 := (number (by decide)).map _

theorem word32 : NeedsByte Reader.word32 := (number (by decide)).map _

theorem tracing : NeedsByte Reader.tracing := (take (by decide)).map _

theorem count (w : Width) : NeedsByte (Reader.count w) := number (Nat.pos_iff_ne_zero.mp w.bytes_pos)

end NeedsByte

/-- Wherever a reader is put that begins with a byte, it fails only with errors of its kind. -/
theorem OnlyRefuses.fault_openAt {buf : Bytes} {offset : Nat} {fault : Fault FrameError}
    (only : OnlyRefuses kind r) (needs : NeedsByte r) (short : ∀ {e}, FrameError.Malformed e → kind e)
    (failed : r (Cursor.openAt buf offset) = .error fault) : ∃ e, fault = .refused e ∧ kind e := by
  by_cases inside : offset ≤ buf.length
  · exact only.refused (Cursor.inside_openAt inside) failed
  · have empty : (Cursor.openAt buf offset).ahead = [] := by
      simp only [Cursor.openAt, List.drop_eq_nil_iff]
      omega
    obtain ⟨needed, refused⟩ := needs _ empty
    rw [refused] at failed
    cases failed
    exact ⟨_, rfl, short (.short _ _ _)⟩

end Reader

open Reader (OnlyRefuses NeedsByte)

theorem TextField.onlyRefuses (w : Width) : OnlyRefuses FrameError.Malformed (read w) := by
  apply (OnlyRefuses.count w).bind
  intro n
  apply OnlyRefuses.position.bind
  intro start
  apply (OnlyRefuses.take n).bind
  intro bs
  cases Text.decode? bs with
  | some s => exact .pure s
  | none => exact .fail (.text start)

theorem TextField.needsByte (w : Width) : NeedsByte (read w) := (NeedsByte.count w).bind _

namespace Headers

theorem onlyRefuses_readPairs (w : Width) (n : Nat) :
    OnlyRefuses FrameError.Malformed (readPairs w n) := by
  induction n with
  | zero => exact .pure []
  | succ n ih =>
    apply (TextField.onlyRefuses w).bind
    intro key
    apply (TextField.onlyRefuses w).bind
    intro value
    exact ih.map _

theorem onlyRefuses (w : Width) : OnlyRefuses FrameError.Malformed (read w) := by
  apply (OnlyRefuses.count w).bind
  intro n
  exact (onlyRefuses_readPairs w n).map collect

theorem needsByte (w : Width) : NeedsByte (read w) := (NeedsByte.count w).bind _

end Headers

theorem Checksum.onlyRefuses : OnlyRefuses FrameError.Malformed read := by
  apply OnlyRefuses.byte.bind
  intro n
  cases ChecksumType.ofNumber? n with
  | none => exact .fail (.checksum n)
  | some type =>
    cases type with
    | none => exact .pure absent
    | crc32 | farmhash32 | crc32c => exact OnlyRefuses.word32.map _

namespace Chunks

theorem onlyRefuses_readUpTo (room : Nat) : OnlyRefuses FrameError.Malformed (readUpTo room) := by
  induction room with
  | zero =>
    apply OnlyRefuses.atEnd.bind
    intro last
    cases last with
    | true => exact .pure []
    | false => exact .fail (.args _)
  | succ room ih =>
    apply OnlyRefuses.atEnd.bind
    intro last
    cases last with
    | true => exact .pure []
    | false =>
      apply (OnlyRefuses.count .wide).bind
      intro n
      apply (OnlyRefuses.take n).bind
      intro chunk
      exact ih.map _

theorem onlyRefuses : OnlyRefuses FrameError.Malformed read := onlyRefuses_readUpTo limit

end Chunks

theorem Handshake.onlyRefuses_read : OnlyRefuses FrameError.Malformed read := by
  apply OnlyRefuses.word16.bind
  intro version
  apply (Headers.onlyRefuses .wide).bind
  intro headers
  cases missing : missingKey? ⟨version, headers⟩ with
  | none =>
    simp only [missing]
    exact .pure _
  | some key =>
    simp only [missing]
    exact .fail (.missing key)

theorem CallRequest.onlyRefuses : OnlyRefuses FrameError.Malformed read := by
  apply OnlyRefuses.byte.bind
  intro flags
  apply OnlyRefuses.word32.bind
  intro ttl
  apply OnlyRefuses.tracing.bind
  intro tracing
  apply (TextField.onlyRefuses .narrow).bind
  intro service
  apply (Headers.onlyRefuses .narrow).bind
  intro headers
  apply Checksum.onlyRefuses.bind
  intro checksum
  exact Chunks.onlyRefuses.map _

theorem CallResponse.onlyRefuses : OnlyRefuses FrameError.Malformed read := by
  apply OnlyRefuses.byte.bind
  intro flags
  apply OnlyRefuses.byte.bind
  intro code
  apply OnlyRefuses.tracing.bind
  intro tracing
  apply (Headers.onlyRefuses .narrow).bind
  intro headers
  apply Checksum.onlyRefuses.bind
  intro checksum
  exact Chunks.onlyRefuses.map _

theorem Continuation.onlyRefuses : OnlyRefuses FrameError.Malformed read := by
  apply OnlyRefuses.byte.bind
  intro flags
  apply Checksum.onlyRefuses.bind
  intro checksum
  exact Chunks.onlyRefuses.map _

theorem Cancel.onlyRefuses : OnlyRefuses FrameError.Malformed read := by
  apply OnlyRefuses.word32.bind
  intro ttl
  apply OnlyRefuses.tracing.bind
  intro tracing
  exact (TextField.onlyRefuses .wide).map _

theorem Claim.onlyRefuses : OnlyRefuses FrameError.Malformed read := by
  apply OnlyRefuses.word32.bind
  intro ttl
  exact OnlyRefuses.tracing.map _

namespace ErrorResponse

theorem onlyRefuses : OnlyRefuses (FrameError.Misread .errorResponse) read := by
  have malformed {α : Type} {r : Reader α} (h : OnlyRefuses FrameError.Malformed r) :
      OnlyRefuses (FrameError.Misread .errorResponse) r := h.mono fun _ => .malformed
  apply (malformed .byte).bind
  intro n
  apply (malformed .tracing).bind
  intro tracing
  cases ErrorCode.ofNumber? n with
  | none => exact .fail (.code n tracing)
  | some code => exact malformed ((TextField.onlyRefuses .wide).map _)

/-- Only the code and the tracing value behind it tell whether an undefined code is reported. -/
theorem read_openAt_eq_undefined_iff {buf : Bytes} {offset : Nat} {n : UInt8} {tracing : Tracing} :
    ErrorResponse.read (Cursor.openAt buf offset) = refuse (.invalidErrorCode n tracing) ↔
      buf[offset]? = some n ∧ ErrorCode.ofNumber? n = none ∧
        offset + 1 + Tracing.width ≤ buf.length ∧
        tracing = .ofBytes ((buf.drop (offset + 1)).take Tracing.width) := by
  constructor
  · intro failed
    have never {α : Type} {r : Reader α} {offset : Nat} (only : OnlyRefuses FrameError.Malformed r)
        (needs : NeedsByte r) : r (Cursor.openAt buf offset) ≠
          .error (.refused (.invalidErrorCode n tracing)) := by
      intro failed
      obtain ⟨e, same, malformed⟩ := only.fault_openAt needs id failed
      cases same
      cases malformed
    rcases Reader.bind_eq_error_iff.mp failed with failed | ⟨m, d, first, failed⟩
    · exact absurd failed (never .byte .byte)
    obtain ⟨here, rfl⟩ := Reader.byte_openAt_eq_ok_iff.mp first
    rcases Reader.bind_eq_error_iff.mp failed with failed | ⟨t, d, second, failed⟩
    · exact absurd failed (never .tracing .tracing)
    obtain ⟨room, same, rfl⟩ := Reader.tracing_openAt_eq_ok_iff.mp second
    cases known : ErrorCode.ofNumber? m with
    | none =>
      rw [known] at failed
      cases failed
      exact ⟨here, known, room, same⟩
    | some code =>
      rw [known] at failed
      exact absurd failed
        (never ((TextField.onlyRefuses .wide).map _) ((TextField.needsByte .wide).map _))
  · rintro ⟨here, undefined, room, rfl⟩
    exact read_openAt_of_undefined here undefined room

end ErrorResponse

namespace Body

theorem onlyRefuses_read (type : FrameType) :
    OnlyRefuses (FrameError.Misread type) (read type) := by
  have malformed {α β : Type} {r : Reader α} (h : OnlyRefuses FrameError.Malformed r) (f : α → β) :
      OnlyRefuses (FrameError.Misread type) (f <$> r) := (h.map f).mono fun _ => .malformed
  cases type with
  | initRequest | initResponse => exact malformed Handshake.onlyRefuses_read _
  | callRequest => exact malformed CallRequest.onlyRefuses _
  | callResponse => exact malformed CallResponse.onlyRefuses _
  | callRequestCont | callResponseCont => exact malformed Continuation.onlyRefuses _
  | cancel => exact malformed Cancel.onlyRefuses _
  | claim => exact malformed Claim.onlyRefuses _
  | pingRequest | pingResponse => exact .pure _
  | errorResponse => exact ErrorResponse.onlyRefuses.map _

/-- Every body begins with bytes of a fixed size, unless it has none at all. -/
theorem empty_or_needsByte (type : FrameType) :
    (∃ b, read type = pure b) ∨ NeedsByte (read type) := by
  cases type with
  | pingRequest | pingResponse => exact .inl ⟨_, rfl⟩
  | initRequest | initResponse => exact .inr ((NeedsByte.word16.bind _).map _)
  | callRequest | callResponse | callRequestCont | callResponseCont | errorResponse =>
    exact .inr ((NeedsByte.byte.bind _).map _)
  | cancel | claim => exact .inr ((NeedsByte.word32.bind _).map _)

/-- **What is wrong with a body is said of its bytes**, wherever they are looked for. -/
theorem fault_of_read {type : FrameType} {buf : Bytes} {offset : Nat} {fault : Fault FrameError}
    (failed : (read type).runAt buf offset = .error fault) :
    ∃ e, fault = .refused e ∧ FrameError.Misread type e := by
  rw [Reader.runAt_eq_error_iff] at failed
  rcases empty_or_needsByte type with ⟨b, empty⟩ | needs
  · rw [empty] at failed
    cases failed
  · exact (onlyRefuses_read type).fault_openAt needs .malformed failed

end Body

namespace Reader

variable {buf : Bytes} {offset : Nat}

/-- A number of which bytes are lacking is refused, whatever is made of it. -/
theorem number_runAt_of_short {α : Type} (f : Nat → α) {w : Nat} (nonzero : w ≠ 0)
    (short : buf.length < offset + w) :
    (f <$> number w).runAt buf offset = refuse (.shortRead w (buf.length - offset) offset) := by
  have lacking : Bytes.covers w (buf.drop offset) = false := by
    rw [Bytes.covers_eq, List.length_drop, decide_eq_false_iff_not]
    omega
  have stops : take w (Cursor.openAt buf offset) =
      refuse (.shortRead w (buf.length - offset) offset) := by
    simp [take, Cursor.openAt, lacking]
  rw [runAt, map_apply, number, map_apply, stops]
  rfl

end Reader

namespace FrameHeader

variable {buf : Bytes} {offset : Nat}

/-- How reading the header at an offset comes out: it is refused because it ends too early, for its
size or for its type, or else it is the header that stands there. -/
inductive HeaderRead (buf : Bytes) (offset : Nat) : Outcome FrameHeader → Prop
  | short {needed remaining place : Nat} : buf.length < offset + FrameLayout.idOffset + 4 →
      HeaderRead buf offset (refuse (.shortRead needed remaining place))
  | undersized : offset + 2 ≤ buf.length →
      (declaredSize (buf.drop offset)).toNat < FrameLayout.overhead →
      HeaderRead buf offset (refuse (.invalidFrameSize (declaredSize (buf.drop offset))))
  | unknown : offset + FrameLayout.typeOffset + 1 ≤ buf.length →
      FrameType.ofNumber? (declaredType (buf.drop offset)) = none →
      HeaderRead buf offset (refuse (.invalidFrameType (declaredType (buf.drop offset))))
  | found {h : FrameHeader} : offset + FrameLayout.idOffset + 4 ≤ buf.length →
      parse (buf.drop offset) = .ok h → HeaderRead buf offset (.ok h)

/-- A header that ends before its id is refused, if not for what is there of it. -/
theorem headerRead_of_short (short : buf.length < offset + FrameLayout.idOffset + 4) :
    HeaderRead buf offset (read buf offset) := by
  unfold read
  -- The size is looked at first, then the type, then the id.
  by_cases sized : offset + 2 ≤ buf.length
  case neg =>
    have size := Reader.number_runAt_of_short UInt16.ofNat (by decide) (Nat.not_le.mp sized)
    have stops : readSize.runAt buf offset = refuse (.shortRead 2 (buf.length - offset) offset) :=
      Reader.runAt_eq_error_iff.mpr
        (Reader.bind_eq_error_iff.mpr (.inl (Reader.runAt_eq_error_iff.mp size)))
    rw [stops]
    exact .short short
  have size := readSize_runAt buf offset sized
  by_cases small : (declaredSize (buf.drop offset)).toNat < FrameLayout.overhead
  case pos =>
    rw [size, if_pos small]
    exact .undersized sized small
  rw [size, if_neg small]
  by_cases typed : offset + FrameLayout.typeOffset + 1 ≤ buf.length
  case neg =>
    have type : Reader.byte.runAt buf (offset + 2) = _ :=
      Reader.number_runAt_of_short UInt8.ofNat (by decide) (Nat.not_le.mp typed)
    simp only [bind, Except.bind, type]
    exact .short short
  have type : Reader.byte.runAt buf (offset + 2) = _ := byte_runAt buf offset typed
  cases known : FrameType.ofNumber? (declaredType (buf.drop offset)) with
  | none =>
    simp only [bind, Except.bind, type, typeOf, known]
    exact .unknown typed known
  | some found =>
    have id : Reader.word32.runAt buf (offset + FrameLayout.idOffset) = _ :=
      Reader.number_runAt_of_short UInt32.ofNat (by decide) short
    simp only [bind, Except.bind, type, typeOf, known, id]
    exact .short short

theorem headerRead (buf : Bytes) (offset : Nat) : HeaderRead buf offset (read buf offset) := by
  by_cases room : offset + FrameLayout.idOffset + 4 ≤ buf.length
  case neg => exact headerRead_of_short (Nat.not_le.mp room)
  rw [read_of_room room]
  simp only [FrameLayout.idOffset] at room
  by_cases small : (declaredSize (buf.drop offset)).toNat < FrameLayout.overhead
  case pos =>
    rw [parse, if_pos small]
    exact .undersized (by omega) small
  cases known : FrameType.ofNumber? (declaredType (buf.drop offset)) with
  | none =>
    rw [parse, if_neg small, typeOf, known]
    exact .unknown (by simp only [FrameLayout.typeOffset]; omega) known
  | some type =>
    have parsed : parse (buf.drop offset) = .ok ⟨_, type, _⟩ :=
      parse_eq_ok_iff.mpr ⟨Nat.not_lt.mp small, rfl, known, rfl⟩
    rw [parsed]
    exact .found room parsed

/-- A header can be read exactly if it is there up to the end of the id, and valid. -/
theorem read_eq_ok_iff {h : FrameHeader} : read buf offset = .ok h ↔
    offset + FrameLayout.idOffset + 4 ≤ buf.length ∧ parse (buf.drop offset) = .ok h := by
  constructor
  · intro found
    have known := found ▸ headerRead buf offset
    cases known with
    | found room parsed => exact ⟨room, parsed⟩
  · rintro ⟨room, parsed⟩
    rw [read_of_room room, parsed]

/-- How an error behind the header is reported. -/
def report (h : FrameHeader) (e : FrameError) : FrameError :=
  if h.type.isCall then .call h.id e else e

end FrameHeader

/-- At any offset in a buffer it can be told how much is left. -/
theorem truncated_eq {α : Type} (size : UInt16) {buf : Bytes} {offset : Nat}
    (inside : offset ≤ buf.length) : (truncated size buf offset : Outcome α) =
      refuse (.shortRead size.toNat (buf.length - offset) offset) := by
  have left : (difference buf.length offset : Outcome Nat) = .ok (buf.length - offset) :=
    difference_eq_ok_iff.mpr ⟨inside, rfl⟩
  rw [truncated, left]
  rfl

namespace ConnectionPools

variable {buf : Bytes} {offset : Nat} {p : ConnectionPools} {e : FrameError}

/-- All that a frame can be refused for: its header; or, behind the header, that the buffer ends
too early, or what the bytes of the body are. -/
inductive ReadFails (buf : Bytes) (offset : Nat) : FrameError → Prop
  | header {e : FrameError} : FrameHeader.read buf offset = refuse e → ReadFails buf offset e
  | truncated {h : FrameHeader} : FrameHeader.read buf offset = .ok h →
      buf.length < offset + h.size.toNat →
      ReadFails buf offset
        (h.report (.shortRead h.size.toNat (buf.length - offset) offset))
  | body {h : FrameHeader} {e : FrameError} : FrameHeader.read buf offset = .ok h →
      offset + h.size.toNat ≤ buf.length →
      (Body.read h.type).runAt (buf.take (offset + h.size.toNat))
        (offset + FrameLayout.bodyOffset) = refuse e →
      FrameError.Misread h.type e → ReadFails buf offset (h.report e)

/-- If the buffer ends before the frame does, that is what is said behind the header. -/
theorem readFrame_of_truncated (p : ConnectionPools) {h : FrameHeader}
    (found : FrameHeader.read buf offset = .ok h) (inside : offset ≤ buf.length)
    (short : buf.length < offset + h.size.toNat) : (p.readFrame buf offset).1 =
      refuse (h.report (.shortRead h.size.toNat (buf.length - offset) offset)) := by
  have incomplete : ¬ Bytes.covers (offset + h.size.toNat) buf = true := by
    rwa [Bytes.covers_iff, Nat.not_le]
  unfold readFrame
  rw [found]
  simp only [if_neg incomplete, truncated_eq h.size inside]
  rfl

/-- **A frame that cannot be read is refused**, for its header or for what is behind it. -/
theorem fails_of_readFrame {fault : Fault FrameError}
    (failed : (p.readFrame buf offset).1 = .error fault) :
    ∃ e, fault = .refused e ∧ ReadFails buf offset e := by
  have known := FrameHeader.headerRead buf offset
  generalize found : FrameHeader.read buf offset = outcome at known
  cases known with
  | short | undersized | unknown =>
    rw [readFrame, found] at failed
    cases failed
    exact ⟨_, rfl, .header found⟩
  | @found h room parsed =>
    simp only [FrameLayout.idOffset] at room
    by_cases complete : offset + h.size.toNat ≤ buf.length
    case neg =>
      have short := Nat.not_le.mp complete
      rw [p.readFrame_of_truncated found (by omega) short] at failed
      cases failed
      exact ⟨_, rfl, .truncated found short⟩
    obtain ⟨-, size, -⟩ := FrameHeader.parse_eq_ok_iff.mp parsed
    rw [p.readFrame_of_inside ⟨by omega, size ▸ complete⟩, parsed] at failed
    cases body : (Body.read h.type).runAt (buf.take (offset + h.size.toNat))
        (offset + FrameLayout.bodyOffset) with
    | ok x =>
      simp only [bind, Except.bind, body] at failed
      cases failed
    | error first =>
      obtain ⟨e, rfl, misread⟩ := Body.fault_of_read body
      simp only [bind, Except.bind, body] at failed
      cases failed
      exact ⟨_, rfl, .body found complete body misread⟩

theorem fails_of_refused (failed : (p.readFrame buf offset).1 = refuse e) :
    ReadFails buf offset e := by
  obtain ⟨_, same, fails⟩ := fails_of_readFrame failed
  cases same
  exact fails

end ConnectionPools

end CallWire
