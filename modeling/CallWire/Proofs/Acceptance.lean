import CallWire.Proofs.Accepting
import CallWire.Proofs.BodyEnds

/-!
# What is accepted as a body

Every reader of a body accepts the layout of its kind, and nothing else. There are no further
conditions on the bytes, and none on what stands in front of them; bodies with argument chunks end
where the buffer ends (`ConnectionPools.readBody_accepts`).
-/

namespace CallWire

namespace Handshake

theorem missingKey?_eq_none_iff {h : Handshake} :
    h.missingKey? = none ↔ "host_port" ∈ h.headers.keys ∧ "process_name" ∈ h.headers.keys := by
  simp [missingKey?, requiredKeys, Headers.contains_iff]

/-- Both required keys must be among the headers. -/
theorem accepts_complete (version : UInt16) (headers : Headers) :
    Accepts false
      (match (⟨version, headers⟩ : Handshake).missingKey? with
        | some key => Reader.fail (.missingInitHeader key)
        | none => pure ⟨version, headers⟩)
      fun h bs => (⟨version, headers⟩ : Handshake) = h ∧ h.missingKey? = none ∧ bs = [] := by
  cases missing : (⟨version, headers⟩ : Handshake).missingKey? with
  | some key =>
    refine (Accepts.fail _ _).congr fun h bs => ⟨nofun, ?_⟩
    rintro ⟨rfl, complete, -⟩
    rw [missing] at complete
    cases complete
  | none =>
    refine (Accepts.pure _).congr fun h bs => ⟨?_, ?_⟩
    · rintro ⟨rfl, rfl⟩
      exact ⟨rfl, missing, rfl⟩
    · rintro ⟨rfl, -, rfl⟩
      exact ⟨rfl, rfl⟩

theorem accepts_read : Accepts false Handshake.read Layout := by
  refine (Accepts.bind Reader.accepts_word16 fun version =>
    Accepts.bind (Headers.accepts_read .wide) (accepts_complete version)).congr fun h bs => ⟨?_, ?_⟩
  · rintro ⟨_, _, _, rfl, ⟨_, headers, _, hheaders, ⟨rfl, complete, rfl⟩, rfl⟩, rfl⟩
    obtain ⟨host, process⟩ := missingKey?_eq_none_iff.mp complete
    exact ⟨host, process, headers, hheaders, by rw [List.append_nil]⟩
  · rintro ⟨host, process, headers, hheaders, rfl⟩
    have complete := missingKey?_eq_none_iff.mpr ⟨host, process⟩
    exact ⟨_, _, _, rfl, ⟨_, headers, [], hheaders, ⟨rfl, complete, rfl⟩, rfl⟩,
      by rw [List.append_nil]⟩

end Handshake

theorem CallRequest.accepts_read : Accepts true CallRequest.read Layout := by
  refine (Accepts.bind Reader.accepts_byte fun flags => Accepts.bind Reader.accepts_word32
    fun ttl => Accepts.bind Reader.accepts_tracing fun tracing =>
    Accepts.bind (TextField.accepts_read .narrow) fun service =>
    Accepts.bind (Headers.accepts_read .narrow) fun headers =>
    Accepts.bind Checksum.accepts_read fun checksum =>
    Chunks.accepts_read.bind_pure).congr fun r bs => ⟨?_, ?_⟩
  · rintro ⟨_, _, _, rfl, ⟨_, _, _, rfl, ⟨_, _, _, rfl, ⟨_, service, _, hservice, ⟨_, headers, _,
      hheaders, ⟨_, checksum, args, hchecksum, ⟨_, rfl, hargs⟩, rfl⟩, rfl⟩, rfl⟩, rfl⟩, rfl⟩, rfl⟩
    exact ⟨service, headers, checksum, args, hservice, hheaders, hchecksum, hargs, rfl⟩
  · rintro ⟨service, headers, checksum, args, hservice, hheaders, hchecksum, hargs, rfl⟩
    exact ⟨_, _, _, rfl, ⟨_, _, _, rfl, ⟨_, _, _, rfl, ⟨_, service, _, hservice, ⟨_, headers, _,
      hheaders, ⟨_, checksum, args, hchecksum, ⟨_, rfl, hargs⟩, rfl⟩, rfl⟩, rfl⟩, rfl⟩, rfl⟩, rfl⟩

theorem CallResponse.accepts_read : Accepts true CallResponse.read Layout := by
  refine (Accepts.bind Reader.accepts_byte fun flags => Accepts.bind Reader.accepts_byte
    fun code => Accepts.bind Reader.accepts_tracing fun tracing =>
    Accepts.bind (Headers.accepts_read .narrow) fun headers =>
    Accepts.bind Checksum.accepts_read fun checksum =>
    Chunks.accepts_read.bind_pure).congr fun r bs => ⟨?_, ?_⟩
  · rintro ⟨_, _, _, rfl, ⟨_, _, _, rfl, ⟨_, _, _, rfl, ⟨_, headers, _, hheaders, ⟨_, checksum,
      args, hchecksum, ⟨_, rfl, hargs⟩, rfl⟩, rfl⟩, rfl⟩, rfl⟩, rfl⟩
    exact ⟨headers, checksum, args, hheaders, hchecksum, hargs, rfl⟩
  · rintro ⟨headers, checksum, args, hheaders, hchecksum, hargs, rfl⟩
    exact ⟨_, _, _, rfl, ⟨_, _, _, rfl, ⟨_, _, _, rfl, ⟨_, headers, _, hheaders, ⟨_, checksum,
      args, hchecksum, ⟨_, rfl, hargs⟩, rfl⟩, rfl⟩, rfl⟩, rfl⟩, rfl⟩

theorem Continuation.accepts_read : Accepts true Continuation.read Layout := by
  refine (Accepts.bind Reader.accepts_byte fun flags =>
    Accepts.bind Checksum.accepts_read fun checksum =>
    Chunks.accepts_read.bind_pure).congr fun r bs => ⟨?_, ?_⟩
  · rintro ⟨_, _, _, rfl, ⟨_, checksum, args, hchecksum, ⟨_, rfl, hargs⟩, rfl⟩, rfl⟩
    exact ⟨checksum, args, hchecksum, hargs, rfl⟩
  · rintro ⟨checksum, args, hchecksum, hargs, rfl⟩
    exact ⟨_, _, _, rfl, ⟨_, checksum, args, hchecksum, ⟨_, rfl, hargs⟩, rfl⟩, rfl⟩

theorem Cancel.accepts_read : Accepts false Cancel.read Layout := by
  refine (Accepts.bind Reader.accepts_word32 fun ttl =>
    Accepts.bind Reader.accepts_tracing fun tracing =>
    (TextField.accepts_read .wide).bind_pure).congr fun c bs => ⟨?_, ?_⟩
  · rintro ⟨_, _, _, rfl, ⟨_, _, why, rfl, ⟨_, rfl, hwhy⟩, rfl⟩, rfl⟩
    exact ⟨why, hwhy, rfl⟩
  · rintro ⟨why, hwhy, rfl⟩
    exact ⟨_, _, _, rfl, ⟨_, _, why, rfl, ⟨_, rfl, hwhy⟩, rfl⟩, rfl⟩

theorem Claim.accepts_read : Accepts false Claim.read Layout := by
  refine (Accepts.bind Reader.accepts_word32 fun ttl =>
    Reader.accepts_tracing.bind_pure).congr fun c bs => ⟨?_, ?_⟩
  · rintro ⟨_, _, _, rfl, ⟨_, rfl, rfl⟩, rfl⟩
    rfl
  · rintro rfl
    exact ⟨_, _, _, rfl, ⟨_, rfl, rfl⟩, rfl⟩

/-- What is read behind the code `n` and the tracing. -/
theorem ErrorResponse.accepts_message (n : UInt8) (tracing : Tracing) :
    Accepts false
      (match ErrorCode.ofNumber? n with
        | none => Reader.fail (.invalidErrorCode n tracing)
        | some code => do
            let message ← TextField.read .wide
            return (⟨code, tracing, message⟩ : ErrorResponse))
      fun e bs => e.code.number = n ∧ e.tracing = tracing ∧
        TextField.Layout .wide e.message bs := by
  cases known : ErrorCode.ofNumber? n with
  | none =>
    refine (Accepts.fail _ _).congr fun e bs => ⟨nofun, ?_⟩
    rintro ⟨rfl, -⟩
    rw [ErrorCode.ofNumber?_number] at known
    cases known
  | some code =>
    refine ((TextField.accepts_read .wide).bind_pure).congr fun e bs => ⟨?_, ?_⟩
    · rintro ⟨message, rfl, laid⟩
      exact ⟨ErrorCode.number_of_ofNumber? known, rfl, laid⟩
    · rintro ⟨rfl, rfl, laid⟩
      rw [ErrorCode.ofNumber?_number, Option.some.injEq] at known
      subst known
      exact ⟨e.message, rfl, laid⟩

theorem ErrorResponse.accepts_read : Accepts false ErrorResponse.read Layout := by
  refine (Accepts.bind Reader.accepts_byte fun n =>
    Accepts.bind Reader.accepts_tracing (accepts_message n)).congr fun e bs => ⟨?_, ?_⟩
  · rintro ⟨_, _, _, rfl, ⟨_, _, message, rfl, ⟨rfl, rfl, laid⟩, rfl⟩, rfl⟩
    exact ⟨message, laid, rfl⟩
  · rintro ⟨message, laid, rfl⟩
    exact ⟨_, _, _, rfl, ⟨_, _, message, rfl, ⟨rfl, rfl, laid⟩, rfl⟩, rfl⟩

/-- What a reader makes a body of is laid out as bodies of that kind are. -/
theorem Accepts.exists_layout {α : Type} {e : Bool} {r : Reader α} {layout : α → Bytes → Prop}
    {type : FrameType} {kind : α → Body ErrorResponse} {pos : Nat} {ahead : Bytes}
    {b : Body ErrorResponse} {d : Cursor} (h : Accepts e r layout)
    (read : (kind <$> r) ⟨pos, ahead, false⟩ = .ok (b, d))
    (typed : ∀ a, (kind a).frameType = type) (laid : ∀ a bs, layout a bs → (kind a).Layout bs) :
    ∃ bs rest, (b.frameType = type ∧ b.Layout bs) ∧ ahead = bs ++ rest ∧ (e = true → rest = []) ∧
      d = ⟨pos + bs.length, rest, false⟩ := by
  obtain ⟨bs, rest, ⟨a, rfl, here⟩, stands⟩ := (h.map kind pos ahead b d).mp read
  exact ⟨bs, rest, ⟨typed a, laid a bs here⟩, stands⟩

/-- **The reader of each kind of body accepts the layout of that kind.** -/
theorem Body.accepts_read (type : FrameType) :
    Accepts type.carriesChunks (Body.read type) fun b bs => b.frameType = type ∧ b.Layout bs := by
  intro pos ahead b d
  constructor
  · intro read
    cases type with
    | initRequest | initResponse =>
      exact Handshake.accepts_read.exists_layout read (fun _ => rfl) fun _ _ laid => laid
    | callRequest =>
      exact CallRequest.accepts_read.exists_layout read (fun _ => rfl) fun _ _ laid => laid
    | callResponse =>
      exact CallResponse.accepts_read.exists_layout read (fun _ => rfl) fun _ _ laid => laid
    | callRequestCont | callResponseCont =>
      exact Continuation.accepts_read.exists_layout read (fun _ => rfl) fun _ _ laid => laid
    | cancel =>
      exact Cancel.accepts_read.exists_layout read (fun _ => rfl) fun _ _ laid => laid
    | claim =>
      exact Claim.accepts_read.exists_layout read (fun _ => rfl) fun _ _ laid => laid
    | pingRequest | pingResponse =>
      obtain ⟨bs, rest, ⟨rfl, laid⟩, stands⟩ := (Accepts.pure _ pos ahead b d).mp read
      exact ⟨bs, rest, ⟨rfl, laid⟩, stands⟩
    | errorResponse =>
      exact ErrorResponse.accepts_read.exists_layout read (fun _ => rfl) fun _ _ laid => laid
  · rintro ⟨bs, rest, ⟨rfl, laid⟩, stands⟩
    cases b with
    | initRequest h | initResponse h =>
      exact (Handshake.accepts_read.map _ pos ahead _ d).mpr ⟨bs, rest, ⟨h, rfl, laid⟩, stands⟩
    | callRequest r =>
      exact (CallRequest.accepts_read.map _ pos ahead _ d).mpr ⟨bs, rest, ⟨r, rfl, laid⟩, stands⟩
    | callResponse r =>
      exact (CallResponse.accepts_read.map _ pos ahead _ d).mpr ⟨bs, rest, ⟨r, rfl, laid⟩, stands⟩
    | callRequestCont r | callResponseCont r =>
      exact (Continuation.accepts_read.map _ pos ahead _ d).mpr ⟨bs, rest, ⟨r, rfl, laid⟩, stands⟩
    | cancel c =>
      exact (Cancel.accepts_read.map _ pos ahead _ d).mpr ⟨bs, rest, ⟨c, rfl, laid⟩, stands⟩
    | claim c =>
      exact (Claim.accepts_read.map _ pos ahead _ d).mpr ⟨bs, rest, ⟨c, rfl, laid⟩, stands⟩
    | pingRequest | pingResponse =>
      exact (Accepts.pure _ pos ahead _ d).mpr ⟨bs, rest, ⟨rfl, laid⟩, stands⟩
    | error e =>
      exact (ErrorResponse.accepts_read.map _ pos ahead _ d).mpr ⟨bs, rest, ⟨e, rfl, laid⟩, stands⟩

theorem CallRequest.overflows_read :
    Overflows CallRequest.read (fun bs => ∃ r : CallRequest, r.args.length = Chunks.limit ∧
      r.Layout bs) (.tooManyArgs (Chunks.limit + 1)) := by
  apply (Overflows.bind Reader.accepts_byte fun flags => .bind Reader.accepts_word32 fun ttl =>
    .bind Reader.accepts_tracing fun tracing =>
    .bind (TextField.accepts_read .narrow) fun service =>
    .bind (Headers.accepts_read .narrow) fun headers => .bind Checksum.accepts_read fun checksum =>
    Chunks.overflows_read.andThen _).mono
  rintro _ ⟨r, full, service, headers, checksum, args, hservice, hheaders, hchecksum, hargs, rfl⟩
  exact ⟨_, _, _, rfl, ⟨_, _, _, rfl, ⟨_, _, _, rfl, ⟨_, service, _, hservice, ⟨_, headers, _,
    hheaders, ⟨_, checksum, args, hchecksum, ⟨r.args, full, hargs⟩, rfl⟩, rfl⟩, rfl⟩, rfl⟩, rfl⟩,
    rfl⟩

theorem CallResponse.overflows_read :
    Overflows CallResponse.read (fun bs => ∃ r : CallResponse, r.args.length = Chunks.limit ∧
      r.Layout bs) (.tooManyArgs (Chunks.limit + 1)) := by
  apply (Overflows.bind Reader.accepts_byte fun flags => .bind Reader.accepts_byte fun code =>
    .bind Reader.accepts_tracing fun tracing => .bind (Headers.accepts_read .narrow) fun headers =>
    .bind Checksum.accepts_read fun checksum => Chunks.overflows_read.andThen _).mono
  rintro _ ⟨r, full, headers, checksum, args, hheaders, hchecksum, hargs, rfl⟩
  exact ⟨_, _, _, rfl, ⟨_, _, _, rfl, ⟨_, _, _, rfl, ⟨_, headers, _, hheaders, ⟨_, checksum, args,
    hchecksum, ⟨r.args, full, hargs⟩, rfl⟩, rfl⟩, rfl⟩, rfl⟩, rfl⟩

theorem Continuation.overflows_read :
    Overflows Continuation.read (fun bs => ∃ r : Continuation, r.args.length = Chunks.limit ∧
      r.Layout bs) (.tooManyArgs (Chunks.limit + 1)) := by
  apply (Overflows.bind Reader.accepts_byte fun flags => .bind Checksum.accepts_read fun checksum =>
    Chunks.overflows_read.andThen _).mono
  rintro _ ⟨r, full, checksum, args, hchecksum, hargs, rfl⟩
  exact ⟨_, _, _, rfl, ⟨_, checksum, args, hchecksum, ⟨r.args, full, hargs⟩, rfl⟩, rfl⟩

/-- Three chunks with anything behind them are one chunk too many. -/
theorem Body.overflows_read (type : FrameType) :
    Overflows (Body.read type) (fun bs => ∃ b : Body ErrorResponse, b.frameType = type ∧
      b.chunks.length = Chunks.limit ∧ b.Layout bs) (.tooManyArgs (Chunks.limit + 1)) := by
  have few {b : Body ErrorResponse} (empty : b.chunks = []) : b.chunks.length ≠ Chunks.limit := by
    rw [empty]
    decide
  rintro pos bs more ⟨b, rfl, full, laid⟩ beyond
  cases b with
  | callRequest r =>
    exact (CallRequest.overflows_read.map callRequest) pos bs more ⟨r, full, laid⟩ beyond
  | callResponse r =>
    exact (CallResponse.overflows_read.map callResponse) pos bs more ⟨r, full, laid⟩ beyond
  | callRequestCont r | callResponseCont r =>
    exact (Continuation.overflows_read.map _) pos bs more ⟨r, full, laid⟩ beyond
  | _ => exact absurd full (few rfl)

namespace ConnectionPools

/-- **A body is read exactly where the layout of its kind stands, and is what stands there.** It
ends behind the bytes that are laid out, which for a body with argument chunks is the end of the
buffer. Three chunks with anything behind them are refused as one too many. -/
theorem readBody_accepts (p : ConnectionPools) (type : FrameType) {buf : Bytes} {offset : Nat}
    (inside : offset ≤ buf.length) :
    (∀ stop held, (p.readBody type buf offset).1 = .ok (stop, held) ↔
      offset ≤ stop ∧ stop ≤ buf.length ∧ (type.carriesChunks = true → stop = buf.length) ∧
        ∃ b, held = .pooled b ∧ b.frameType = type ∧ b.Layout ((buf.take stop).drop offset)) ∧
    (∀ (b : Body ErrorResponse) (bs more : Bytes), b.frameType = type → b.chunks.length = 3 →
      b.Layout bs → buf.drop offset = bs ++ more → more ≠ [] →
      (p.readBody type buf offset).1 = refuse (.tooManyArgs 4)) := by
  constructor
  · intro stop held
    have whole (b : Body ErrorResponse) : (Body.read type).runAt buf offset = .ok (stop, b) ↔ _ :=
      (Body.accepts_read type).runAt_eq_ok_iff inside
    rw [readBody_fst]
    constructor
    · intro read
      cases run : (Body.read type).runAt buf offset with
      | error fault =>
        rw [run] at read
        cases read
      | ok x =>
        rw [run] at read
        cases read
        obtain ⟨front, back, ended, typed, laid⟩ := (whole x.2).mp run
        exact ⟨front, back, ended, x.2, rfl, typed, laid⟩
    · rintro ⟨front, back, ended, b, rfl, typed, laid⟩
      rw [(whole b).mpr ⟨front, back, ended, typed, laid⟩]
      rfl
  · rintro b bs more typed full laid stands beyond
    have start : Cursor.openAt buf offset = ⟨offset, bs ++ more, false⟩ := by
      simp [Cursor.openAt, Bytes.covers_eq, inside, stands]
    rw [readBody_fst, Reader.runAt, start]
    rw [Body.overflows_read type offset bs more ⟨b, typed, full, laid⟩ beyond]
    rfl

/-- A continuation with three chunks, one of them empty. -/
def fullContinuation : Bytes := [1] ++ ([1, 0, 0, 0, 7] ++ [0, 1, 65, 0, 0, 0, 2, 66, 67])

theorem readBody_accepts_fullContinuation :
    ∃ b : Body ErrorResponse, b.chunks = [[65], [], [66, 67]] ∧ b.Layout fullContinuation ∧
      1 ≤ (7 :: fullContinuation ++ [9]).length ∧
      (empty.readBody .callRequestCont (7 :: fullContinuation ++ [9]) 1).1 =
        refuse (.tooManyArgs 4) := by
  have inside : 1 ≤ (7 :: fullContinuation).length := by decide
  have within : 1 ≤ (7 :: fullContinuation ++ [9]).length := by decide
  obtain ⟨-, -, -, b, same, typed, laid⟩ :=
    ((readBody_accepts empty .callRequestCont inside).1 16
      (.pooled (.callRequestCont ⟨1, ⟨.crc32, 7⟩, [[65], [], [66, 67]]⟩))).mp rfl
  cases b with
  | callRequestCont part =>
    cases same
    exact ⟨_, rfl, laid, within, (readBody_accepts empty .callRequestCont within).2 _
      fullContinuation [9] rfl rfl laid rfl (by decide)⟩
  | _ => cases typed

end ConnectionPools

end CallWire