import CallWire.LazyFrame.ErrorFields
import CallWire.Proofs.Forwarding

/-!
# Raw fields agree with the body

What is read at fixed places of a lazy frame is what its body says once it is decoded. An error
response can be decoded just if each of its three fields can be read, an undefined code is reported
by both in the same words, and the first byte of a body tells whether the frame ends its call
(`LazyFrame.rawFields_of_obtained`).

* `Reader.take_openAt_eq_ok_iff`: a reader of fixed width goes on at a fixed place;
* `ErrorResponse.read_openAt_eq_ok_iff`: so an error response is its three fields;
* `Represents.decode_of_read`: a lazy frame gives the body that stands in its bytes, or says why
  there is none.
-/

namespace CallWire

namespace Reader

variable {buf : Bytes} {offset n : Nat} {c : Cursor}

/-- Bytes are taken exactly if they are there, and the cursor goes on behind them. -/
theorem take_openAt_eq_ok_iff {bs : Bytes} :
    take n (Cursor.openAt buf offset) = .ok (bs, c) ↔ offset + n ≤ buf.length ∧
      bs = (buf.drop offset).take n ∧ c = Cursor.openAt buf (offset + n) := by
  constructor
  · intro taken
    have room : offset + n ≤ buf.length := by
      unfold take at taken
      split at taken
      · rename_i enough
        split at taken
        · cases taken
        · rename_i inside
          simp only [Cursor.openAt, Bytes.covers_eq, List.length_drop, decide_eq_true_eq,
            Bool.not_eq_true', decide_eq_false_iff_not, Nat.not_le] at enough inside
          omega
      · cases taken
    rw [take_openAt room] at taken
    cases taken
    exact ⟨room, rfl, rfl⟩
  · rintro ⟨room, rfl, rfl⟩
    exact take_openAt room

/-- A byte is read exactly if it is there. -/
theorem byte_openAt_eq_ok_iff {b : UInt8} : byte (Cursor.openAt buf offset) = .ok (b, c) ↔
    buf[offset]? = some b ∧ c = Cursor.openAt buf (offset + 1) := by
  have single (inside : offset < buf.length) :
      UInt8.ofNat (Bytes.ofBigEndian ((buf.drop offset).take 1)) = buf[offset] := by
    rw [List.drop_eq_getElem_cons inside, List.take_succ_cons, List.take_zero,
      Bytes.ofBigEndian_cons]
    simp [Bytes.capacity, Bytes.ofBigEndian]
  rw [byte, map_eq_ok_iff, List.getElem?_eq_some_iff]
  constructor
  · rintro ⟨n, read, rfl⟩
    obtain ⟨bs, taken, rfl⟩ := map_eq_ok_iff.mp read
    obtain ⟨room, rfl, rfl⟩ := take_openAt_eq_ok_iff.mp taken
    exact ⟨⟨room, (single room).symm⟩, rfl⟩
  · rintro ⟨⟨inside, rfl⟩, rfl⟩
    exact ⟨_, number_openAt inside, single inside⟩

theorem tracing_openAt_eq_ok_iff {t : Tracing} :
    tracing (Cursor.openAt buf offset) = .ok (t, c) ↔ offset + Tracing.width ≤ buf.length ∧
      t = .ofBytes ((buf.drop offset).take Tracing.width) ∧
      c = Cursor.openAt buf (offset + Tracing.width) := by
  rw [tracing, map_eq_ok_iff]
  constructor
  · rintro ⟨bs, taken, rfl⟩
    obtain ⟨room, rfl, rfl⟩ := take_openAt_eq_ok_iff.mp taken
    exact ⟨room, rfl, rfl⟩
  · rintro ⟨room, rfl, rfl⟩
    exact ⟨_, take_openAt room, rfl⟩

/-- After a reader that succeeds the next one goes on. -/
theorem bind_of_ok {α β : Type} {r : Reader α} {next : α → Reader β} {a : α} {d : Cursor}
    (read : r c = .ok (a, d)) : (r >>= next) c = next a d := by
  show r c >>= (fun x => next x.1 x.2) = _
  rw [read]
  rfl

end Reader

/-- An error response is read if its code, its tracing value and its message are, each at its
place. -/
theorem ErrorResponse.read_openAt_eq_ok_iff {buf : Bytes} {offset : Nat} {c : Cursor}
    {e : ErrorResponse} : ErrorResponse.read (Cursor.openAt buf offset) = .ok (e, c) ↔
      (∃ n, buf[offset]? = some n ∧ ErrorCode.ofNumber? n = some e.code) ∧
      (∃ d, Reader.tracing (Cursor.openAt buf (offset + 1)) = .ok (e.tracing, d)) ∧
      TextField.read .wide (Cursor.openAt buf (offset + 1 + Tracing.width)) =
        .ok (e.message, c) := by
  constructor
  · intro read
    obtain ⟨n, c₁, first, read⟩ := Reader.bind_eq_ok_iff.mp read
    obtain ⟨here, rfl⟩ := Reader.byte_openAt_eq_ok_iff.mp first
    obtain ⟨tracing, c₂, second, read⟩ := Reader.bind_eq_ok_iff.mp read
    obtain ⟨-, -, rfl⟩ := Reader.tracing_openAt_eq_ok_iff.mp second
    cases defined : ErrorCode.ofNumber? n with
    | none =>
      rw [defined] at read
      cases read
    | some code =>
      rw [defined] at read
      obtain ⟨message, c₃, third, read⟩ := Reader.bind_eq_ok_iff.mp read
      obtain ⟨rfl, rfl⟩ := Reader.pure_eq_ok_iff.mp read
      exact ⟨⟨n, here, defined⟩, ⟨_, second⟩, third⟩
  · rintro ⟨⟨n, here, defined⟩, ⟨d, second⟩, third⟩
    have first := Reader.byte_openAt_eq_ok_iff.mpr ⟨here, rfl⟩
    obtain ⟨-, -, rfl⟩ := Reader.tracing_openAt_eq_ok_iff.mp second
    refine Reader.bind_eq_ok_iff.mpr ⟨n, _, first, Reader.bind_eq_ok_iff.mpr ⟨_, _, second, ?_⟩⟩
    rw [defined]
    exact Reader.bind_eq_ok_iff.mpr ⟨_, _, third, rfl⟩

/-- An undefined code is refused with the tracing value that stands behind it. -/
theorem ErrorResponse.read_openAt_of_undefined {buf : Bytes} {offset : Nat} {n : UInt8}
    (here : buf[offset]? = some n) (undefined : ErrorCode.ofNumber? n = none)
    (room : offset + 1 + Tracing.width ≤ buf.length) :
    ErrorResponse.read (Cursor.openAt buf offset) = refuse
      (.invalidErrorCode n (.ofBytes ((buf.drop (offset + 1)).take Tracing.width))) := by
  have code := Reader.byte_openAt_eq_ok_iff.mpr ⟨here, rfl⟩
  have tracing := Reader.tracing_openAt_eq_ok_iff.mpr ⟨room, rfl, rfl⟩
  rw [read, Reader.bind_of_ok code, Reader.bind_of_ok tracing, undefined]
  rfl

/-- The flags of a call response stand in its first byte. -/
theorem CallResponse.flags_of_read {buf : Bytes} {offset : Nat} {c : Cursor} {r : CallResponse}
    (read : CallResponse.read (Cursor.openAt buf offset) = .ok (r, c)) :
    buf[offset]? = some r.flags := by
  obtain ⟨flags, _, first, read⟩ := Reader.bind_eq_ok_iff.mp read
  obtain ⟨code, _, -, read⟩ := Reader.bind_eq_ok_iff.mp read
  obtain ⟨tracing, _, -, read⟩ := Reader.bind_eq_ok_iff.mp read
  obtain ⟨headers, _, -, read⟩ := Reader.bind_eq_ok_iff.mp read
  obtain ⟨checksum, _, -, read⟩ := Reader.bind_eq_ok_iff.mp read
  obtain ⟨args, _, -, read⟩ := Reader.bind_eq_ok_iff.mp read
  obtain ⟨rfl, -⟩ := Reader.pure_eq_ok_iff.mp read
  exact (Reader.byte_openAt_eq_ok_iff.mp first).1

/-- The flags of a continuation stand in its first byte. -/
theorem Continuation.flags_of_read {buf : Bytes} {offset : Nat} {c : Cursor} {part : Continuation}
    (read : Continuation.read (Cursor.openAt buf offset) = .ok (part, c)) :
    buf[offset]? = some part.flags := by
  obtain ⟨flags, _, first, read⟩ := Reader.bind_eq_ok_iff.mp read
  obtain ⟨checksum, _, -, read⟩ := Reader.bind_eq_ok_iff.mp read
  obtain ⟨args, _, -, read⟩ := Reader.bind_eq_ok_iff.mp read
  obtain ⟨rfl, -⟩ := Reader.pure_eq_ok_iff.mp read
  exact (Reader.byte_openAt_eq_ok_iff.mp first).1

namespace Body

/-- Whether the body ends its call: an error response, or a part of a call response that no other
follows. -/
def endsCall {ε : Type} : Body ε → Bool
  | error _ => true
  | callResponse r => !hasMore r.flags
  | callResponseCont part => !hasMore part.flags
  | _ => false

theorem endsCall_mapError {ε δ : Type} (f : ε → δ) (b : Body ε) :
    (b.mapError f).endsCall = b.endsCall := by
  cases b <;> rfl

end Body

/-- Only what a body holds tells whether it ends its call. -/
theorem HeldBody.endsCall_of_contents {body : HeldBody} {b : Body ErrorResponse}
    (same : body.contents = (pooled b).contents) : body.endsCall = b.endsCall := by
  have ends := congrArg Body.endsCall same
  rw [contents, contents, pooled] at ends
  simpa only [Body.endsCall_mapError] using ends

/-- A body that holds what an error response does is one. -/
theorem HeldBody.error_of_contents {body : HeldBody} {e : ErrorResponse}
    (same : body.contents = (pooled (.error e)).contents) :
    ∃ h, body = .error h ∧ h.value? = some e := by
  cases body with
  | error h =>
    injection same with held
    exact ⟨h, rfl, held⟩
  | _ => cases same

/-- An error frame holds an error response and nothing else. -/
theorem Body.runAt_error_eq_ok_iff {buf : Bytes} {offset stop : Nat} {b : Body ErrorResponse} :
    (Body.read .errorResponse).runAt buf offset = .ok (stop, b) ↔
      ∃ e, ErrorResponse.read.runAt buf offset = .ok (stop, e) ∧ b = .error e := by
  rw [Body.read, Reader.runAt_map]
  cases ErrorResponse.read.runAt buf offset with
  | error fault =>
    constructor
    · intro read
      cases read
    · rintro ⟨e, read, -⟩
      cases read
  | ok x =>
    constructor
    · rintro ⟨⟩
      exact ⟨x.2, rfl, rfl⟩
    · rintro ⟨e, read, rfl⟩
      cases read
      rfl

namespace LazyFrame

variable {f g : LazyFrame} {bytes : Bytes} {type : FrameType} {p : ConnectionPools}

theorem view_eq_ok (view : f.view? = some bytes) : f.view = .ok bytes := by
  rw [LazyFrame.view, view]

/-- What is read at a place of the bytes. -/
theorem readAt_eq_ok_iff {α : Type} (view : f.view? = some bytes) (r : Reader α) (offset : Nat)
    {a : α} : (do
        let bytes ← f.view
        let (_, a) ← r.runAt bytes offset
        return a : Outcome α) = .ok a ↔ ∃ c, r (Cursor.openAt bytes offset) = .ok (a, c) := by
  rw [view_eq_ok view]
  constructor
  · intro read
    obtain ⟨_, viewed, read⟩ := bind_eq_ok_iff.mp read
    cases viewed
    obtain ⟨x, there, read⟩ := bind_eq_ok_iff.mp read
    obtain ⟨c, there, -⟩ := Reader.runAt_eq_ok_iff.mp there
    cases read
    exact ⟨c, there⟩
  · rintro ⟨c, there⟩
    have run := Reader.runAt_eq_ok_iff.mpr ⟨c, there, rfl⟩
    exact bind_eq_ok_iff.mpr ⟨bytes, rfl, bind_eq_ok_iff.mpr ⟨_, run, rfl⟩⟩

theorem errorTracing_eq_ok_iff (view : f.view? = some bytes) {t : Tracing} :
    f.errorTracing = .ok t ↔
      ∃ c, Reader.tracing (Cursor.openAt bytes tracingOffset) = .ok (t, c) :=
  readAt_eq_ok_iff view Reader.tracing tracingOffset

theorem errorMessage_eq_ok_iff (view : f.view? = some bytes) {message : String} :
    f.errorMessage = .ok message ↔
      ∃ c, TextField.read .wide (Cursor.openAt bytes messageOffset) = .ok (message, c) :=
  readAt_eq_ok_iff view (TextField.read .wide) messageOffset

/-- What the byte at the place of the code comes to. -/
theorem errorCode_of_byte (view : f.view? = some bytes) {n : UInt8}
    (here : bytes[codeOffset]? = some n) : f.errorCode =
      match ErrorCode.ofNumber? n, f.errorTracing with
      | some code, _ => .ok code
      | none, .ok tracing => refuse (.invalidErrorCode n tracing)
      | none, .error _ => refuse (.invalidErrorCode n Tracing.empty) := by
  have read := Reader.runAt_eq_ok_iff.mpr
    ⟨_, Reader.byte_openAt_eq_ok_iff.mpr ⟨here, rfl⟩, rfl⟩
  rw [errorCode, view_eq_ok view]
  simp only [bind, Except.bind, read]
  rfl

theorem errorCode_eq_ok_iff (view : f.view? = some bytes) {code : ErrorCode} :
    f.errorCode = .ok code ↔
      ∃ n, bytes[codeOffset]? = some n ∧ ErrorCode.ofNumber? n = some code := by
  constructor
  · intro read
    have found := read
    rw [errorCode, view_eq_ok view] at found
    obtain ⟨_, viewed, found⟩ := bind_eq_ok_iff.mp found
    cases viewed
    obtain ⟨⟨m, n⟩, there, -⟩ := bind_eq_ok_iff.mp found
    obtain ⟨c, there, -⟩ := Reader.runAt_eq_ok_iff.mp there
    obtain ⟨here, -⟩ := Reader.byte_openAt_eq_ok_iff.mp there
    rw [errorCode_of_byte view here] at read
    refine ⟨n, here, ?_⟩
    split at read
    · cases read
      assumption
    · cases read
    · cases read
  · rintro ⟨n, here, defined⟩
    rw [errorCode_of_byte view here, defined]

/-- An error response stands in the bytes of a lazy frame just if its fields do. -/
theorem read_error_iff (view : f.view? = some bytes) {e : ErrorResponse} :
    (∃ stop, ErrorResponse.read.runAt bytes FrameLayout.bodyOffset = .ok (stop, e)) ↔
      f.errorCode = .ok e.code ∧ f.errorTracing = .ok e.tracing ∧
        f.errorMessage = .ok e.message := by
  rw [errorCode_eq_ok_iff view, errorTracing_eq_ok_iff view, errorMessage_eq_ok_iff view]
  constructor
  · rintro ⟨stop, read⟩
    obtain ⟨c, read, -⟩ := Reader.runAt_eq_ok_iff.mp read
    obtain ⟨code, tracing, message⟩ := ErrorResponse.read_openAt_eq_ok_iff.mp read
    exact ⟨code, tracing, c, message⟩
  · rintro ⟨code, tracing, c, message⟩
    exact ⟨_, Reader.runAt_eq_ok_iff.mpr
      ⟨c, ErrorResponse.read_openAt_eq_ok_iff.mpr ⟨code, tracing, message⟩, rfl⟩⟩

namespace Represents

/-- The body that a lazy frame gives is the one that stands in its bytes. -/
theorem read_of_decode (represents : f.Represents bytes) (typed : f.type? = some type)
    {body : HeldBody} (decoded : (p.decodeBody f).1 = .ok (body, g)) : ∃ stop b,
      (Body.read type).runAt bytes FrameLayout.bodyOffset = .ok (stop, b) ∧
        body.contents = (HeldBody.pooled b).contents := by
  obtain ⟨-, header, parsed, made⟩ := represents.exists_header
  rw [made] at typed
  cases typed
  obtain ⟨again, known⟩ := represents.represents_decode decoded
  exact again.exists_body parsed known

/-- A lazy frame gives its body if one stands in its bytes, and else says why there is none. -/
theorem decode_of_read (represents : f.Represents bytes) (typed : f.type? = some type)
    (p : ConnectionPools) :
    match (Body.read type).runAt bytes FrameLayout.bodyOffset with
    | .ok _ => ∃ x, (p.decodeBody f).1 = .ok x
    | .error fault => (p.decodeBody f).1 = .error (tagBodyError type f.id fault) := by
  obtain ⟨-, header, parsed, made⟩ := represents.exists_header
  rw [made] at typed
  cases typed
  cases known : f.body? with
  | some body =>
    obtain ⟨stop, b, read, -⟩ := represents.exists_body parsed known
    rw [read]
    exact ⟨(body, f), by rw [ConnectionPools.decodeBody, known]⟩
  | none =>
    have fresh : f = ofHeader header bytes := by
      rw [made, known]
      rfl
    rw [fresh, p.decodeBody_ofHeader]
    cases (Body.read header.type).runAt bytes FrameLayout.bodyOffset with
    | ok x => exact ⟨_, rfl⟩
    | error fault => rfl

/-- The first byte of the body tells what the whole body does. -/
theorem isTerminal_of_read (represents : f.Represents bytes) (typed : f.type? = some type)
    {stop : Nat} {b : Body ErrorResponse}
    (read : (Body.read type).runAt bytes FrameLayout.bodyOffset = .ok (stop, b)) :
    f.isTerminal = b.endsCall := by
  obtain ⟨c, read, -⟩ := Reader.runAt_eq_ok_iff.mp read
  have ofFlags (byFlags : type = .callResponse ∨ type = .callResponseCont) {flags : UInt8}
      (first : bytes[FrameLayout.bodyOffset]? = some flags) :
      f.isTerminal = !hasMore flags := by
    rcases byFlags with rfl | rfl
    · simp only [isTerminal, typed, represents.view, Option.bind_some, first]
    · simp only [isTerminal, typed, represents.view, Option.bind_some, first]
  cases type with
  | errorResponse =>
    obtain ⟨e, -, rfl⟩ := Reader.map_eq_ok_iff.mp read
    simp only [isTerminal, typed, Body.endsCall]
  | callResponse =>
    obtain ⟨r, parts, rfl⟩ := Reader.map_eq_ok_iff.mp read
    exact ofFlags (.inl rfl) (CallResponse.flags_of_read parts)
  | callResponseCont =>
    obtain ⟨part, parts, rfl⟩ := Reader.map_eq_ok_iff.mp read
    exact ofFlags (.inr rfl) (Continuation.flags_of_read parts)
  | pingRequest | pingResponse =>
    obtain ⟨rfl, -⟩ := Reader.pure_eq_ok_iff.mp read
    simp only [isTerminal, typed, Body.endsCall]
  | _ =>
    obtain ⟨_, -, rfl⟩ := Reader.map_eq_ok_iff.mp read
    simp only [isTerminal, typed, Body.endsCall]

/-- What is decoded is the error response whose fields are read one by one. -/
theorem fields_of_decode (represents : f.Represents bytes)
    (typed : f.type? = some .errorResponse) {body : HeldBody}
    (decoded : (p.decodeBody f).1 = .ok (body, g)) :
    ∃ h e, body = .error h ∧ h.value? = some e ∧ f.errorCode = .ok e.code ∧
      f.errorTracing = .ok e.tracing ∧ f.errorMessage = .ok e.message := by
  obtain ⟨stop, b, read, same⟩ := represents.read_of_decode typed decoded
  obtain ⟨e, parts, rfl⟩ := Body.runAt_error_eq_ok_iff.mp read
  obtain ⟨h, rfl, held⟩ := HeldBody.error_of_contents same
  exact ⟨h, e, rfl, held, (read_error_iff represents.view).mp ⟨stop, parts⟩⟩

/-- An error response is decoded if its fields can be read one by one. -/
theorem decode_of_fields (represents : f.Represents bytes)
    (typed : f.type? = some .errorResponse) {e : ErrorResponse} (code : f.errorCode = .ok e.code)
    (tracing : f.errorTracing = .ok e.tracing) (message : f.errorMessage = .ok e.message)
    (p : ConnectionPools) : ∃ x, (p.decodeBody f).1 = .ok x := by
  obtain ⟨stop, parts⟩ := (read_error_iff represents.view).mpr ⟨code, tracing, message⟩
  have read := Body.runAt_error_eq_ok_iff.mpr ⟨e, parts, rfl⟩
  have decoded := represents.decode_of_read typed p
  rw [read] at decoded
  exact decoded

/-- An undefined code is reported with the same tracing value by the raw field and by the body. -/
theorem undefined_code (represents : f.Represents bytes)
    (typed : f.type? = some .errorResponse) {n : UInt8} (room : messageOffset ≤ bytes.length)
    (here : bytes[codeOffset]? = some n) (undefined : ErrorCode.ofNumber? n = none)
    (p : ConnectionPools) :
    ∃ tracing e, f.errorTracing = .ok tracing ∧
      f.errorCode = refuse (.invalidErrorCode n tracing) ∧
      (p.decodeBody f).1 = refuse e ∧ e.root = .invalidErrorCode n tracing := by
  have tracing := (errorTracing_eq_ok_iff represents.view).mpr
    ⟨_, Reader.tracing_openAt_eq_ok_iff.mpr ⟨room, rfl, rfl⟩⟩
  have refused := ErrorResponse.read_openAt_of_undefined here undefined room
  have decoded := represents.decode_of_read typed p
  rw [Body.read, Reader.runAt_map, Reader.runAt, ← codeOffset, refused] at decoded
  refine ⟨_, _, tracing, ?_, decoded, rfl⟩
  rw [errorCode_of_byte represents.view here, undefined, tracing]

end Represents

/-- What the fields of a lazy frame say in place, and what its body says once it is decoded. -/
structure RawFieldsAgree (f : LazyFrame) (p : ConnectionPools) : Prop where
  /-- An error response can be decoded just if each of its fields can be read. -/
  readable : f.type? = some .errorResponse →
    ((∃ x, (p.decodeBody f).1 = .ok x) ↔ (∃ code, f.errorCode = .ok code) ∧
      (∃ tracing, f.errorTracing = .ok tracing) ∧ ∃ message, f.errorMessage = .ok message)
  /-- The fields are those of the decoded error response. -/
  fields : f.type? = some .errorResponse → ∀ body g, (p.decodeBody f).1 = .ok (body, g) →
    ∃ h e, body = .error h ∧ h.value? = some e ∧ f.errorCode = .ok e.code ∧
      f.errorTracing = .ok e.tracing ∧ f.errorMessage = .ok e.message
  /-- An undefined code with a whole tracing value behind it is reported with that value, and this
  is at the root of what is wrong with the body. -/
  undefinedCode : f.type? = some .errorResponse → ∀ bytes n, f.view? = some bytes →
    messageOffset ≤ bytes.length → bytes[codeOffset]? = some n → ErrorCode.ofNumber? n = none →
    ∃ tracing e, f.errorTracing = .ok tracing ∧
      f.errorCode = refuse (.invalidErrorCode n tracing) ∧
      (p.decodeBody f).1 = refuse e ∧ e.root = .invalidErrorCode n tracing
  /-- Whether the frame ends its call is told by its bytes as by its body. -/
  terminal : ∀ body g, (p.decodeBody f).1 = .ok (body, g) → f.isTerminal = body.endsCall

theorem Represents.rawFieldsAgree (represents : f.Represents bytes) (p : ConnectionPools) :
    RawFieldsAgree f p := by
  constructor
  case readable =>
    intro typed
    constructor
    · rintro ⟨⟨body, g⟩, decoded⟩
      obtain ⟨h, e, -, -, code, tracing, message⟩ := represents.fields_of_decode typed decoded
      exact ⟨⟨_, code⟩, ⟨_, tracing⟩, ⟨_, message⟩⟩
    · rintro ⟨⟨code, hcode⟩, ⟨tracing, htracing⟩, ⟨message, hmessage⟩⟩
      exact represents.decode_of_fields typed (e := ⟨code, tracing, message⟩) hcode htracing
        hmessage p
  case fields => exact fun typed _ _ => represents.fields_of_decode typed
  case undefinedCode =>
    intro typed view n kept room here undefined
    cases kept.symm.trans represents.view
    exact represents.undefined_code typed room here undefined p
  case terminal =>
    intro body g decoded
    obtain ⟨type, typed, -⟩ := represents.header
    obtain ⟨stop, b, read, same⟩ := represents.read_of_decode typed decoded
    rw [represents.isTerminal_of_read typed read, HeldBody.endsCall_of_contents same]

/-- **What is read at fixed places of a lazy frame is what its body says.** This stays so whatever
is done to the frame, whether it is given another id, copied, written out or decoded. -/
theorem rawFields_of_obtained {original : Bytes} (obtained : Obtained f original)
    (handlings : List Handling) (p : ConnectionPools) :
    RawFieldsAgree (f.handleAll handlings) p :=
  (obtained.represents.handleAll handlings).rawFieldsAgree p

/-- The bytes of an error response with the given code and without a message. -/
def failedWith (code : UInt8) : Bytes :=
  [0, 44, FrameType.errorResponse.number, 0, 0, 0, 0, 9] ++ Bytes.zeros 8 ++
    [code] ++ List.replicate Tracing.width 7 ++ [0, 0]

/-- After the frame was given another id, a defined code is decoded as it is read in place, and an
undefined one is reported. -/
theorem rawFields_of_obtained_failedWith : ∃ h f k g,
    (ConnectionPools.empty.readLazyFrame (failedWith 4) 0).1 = .ok (44, h) ∧ h.value? = some f ∧
    (∃ x, (ConnectionPools.empty.decodeBody (f.handleAll [.setId 7])).1 = .ok x) ∧
    (ConnectionPools.empty.readLazyFrame (failedWith 99) 0).1 = .ok (44, k) ∧ k.value? = some g ∧
    ∃ e, (ConnectionPools.empty.decodeBody (g.handleAll [.setId 7])).1 = refuse e ∧
      e.root = .invalidErrorCode 99 (.ofBytes (List.replicate Tracing.width 7)) := by
  have first : ∃ h f, (ConnectionPools.empty.readLazyFrame (failedWith 4) 0).1 = .ok (44, h) ∧
      h.value? = some f ∧ f = .ofHeader ⟨44, .errorResponse, 9⟩ (failedWith 4) :=
    ⟨_, _, rfl, rfl, rfl⟩
  have second : ∃ k g, (ConnectionPools.empty.readLazyFrame (failedWith 99) 0).1 = .ok (44, k) ∧
      k.value? = some g ∧ g = .ofHeader ⟨44, .errorResponse, 9⟩ (failedWith 99) :=
    ⟨_, _, rfl, rfl, rfl⟩
  obtain ⟨h, f, read, held, made⟩ := first
  obtain ⟨k, g, taken, kept, built⟩ := second
  have defined := rawFields_of_obtained (Obtained.read read held) [.setId 7] .empty
  have undefined := rawFields_of_obtained (Obtained.read taken kept) [.setId 7] .empty
  subst made built
  refine ⟨h, _, k, _, read, held, ?_, taken, kept, ?_⟩
  · exact (defined.readable rfl).mpr ⟨⟨_, rfl⟩, ⟨_, rfl⟩, ⟨_, rfl⟩⟩
  · obtain ⟨tracing, e, raw, -, refused, root⟩ :=
      undefined.undefinedCode rfl _ 99 rfl (by decide) rfl rfl
    refine ⟨e, refused, root.trans ?_⟩
    cases raw
    rfl

end LazyFrame

end CallWire
