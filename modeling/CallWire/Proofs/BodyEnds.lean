import CallWire.Proofs.Canonical

/-!
# Where bodies end

Argument chunks go on to the end of the buffer, so a body that carries some ends where its frame
ends. All other bodies end by themselves, and nothing looks at what stands behind them in the frame.

* `Body.ahead_of_read`: a body with argument chunks leaves nothing ahead;
* `Frame.size_of_readFrame`: the size that a frame declares counts, beside what the frame takes, the
  bytes that its body left unread.
-/

namespace CallWire

namespace FrameType

/-- Whether the bodies of this type end with argument chunks. -/
def carriesChunks : FrameType → Bool
  | callRequest | callResponse | callRequestCont | callResponseCont => true
  | initRequest | initResponse | cancel | claim | pingRequest | pingResponse | errorResponse =>
      false

end FrameType

/-- Where the reader succeeds, nothing is left ahead. -/
def Exhausts {α : Type} (r : Reader α) : Prop := ∀ c a d, r c = .ok (a, d) → d.ahead = []

namespace Exhausts

variable {α β : Type} {r : Reader α}

theorem bind {f : α → Reader β} (last : ∀ a, Exhausts (f a)) : Exhausts (r >>= f) := by
  intro c b d read
  obtain ⟨a, e, -, read⟩ := Reader.bind_eq_ok_iff.mp read
  exact last a e b d read

theorem map (f : α → β) (h : Exhausts r) : Exhausts (f <$> r) := by
  intro c b d read
  obtain ⟨a, read, -⟩ := Reader.map_eq_ok_iff.mp read
  exact h c a d read

/-- The last part of a reader whose value is made of what it has read. -/
theorem bind_pure {f : α → β} (h : Exhausts r) : Exhausts (r >>= fun a => Pure.pure (f a)) :=
  h.map f

end Exhausts

theorem Chunks.exhausts_readUpTo (room : Nat) : Exhausts (readUpTo room) := by
  have ended {c d : Cursor} {chunks : List Bytes} (done : c.ahead.isEmpty = true)
      (read : (pure [] : Reader (List Bytes)) c = .ok (chunks, d)) : d.ahead = [] := by
    obtain ⟨-, rfl⟩ := Reader.pure_eq_ok_iff.mp read
    exact List.isEmpty_iff.mp done
  induction room with
  | zero =>
    intro c chunks d read
    obtain ⟨last, e, here, read⟩ := Reader.bind_eq_ok_iff.mp read
    cases here
    split at read
    · exact ended ‹_› read
    · cases read
  | succ room ih =>
    intro c chunks d read
    obtain ⟨last, e, here, read⟩ := Reader.bind_eq_ok_iff.mp read
    cases here
    split at read
    · exact ended ‹_› read
    · have more : Exhausts (Reader.count .wide >>= fun n => Reader.take n >>= fun chunk =>
          readUpTo room >>= fun rest => pure (chunk :: rest)) :=
        .bind fun _ => .bind fun _ => ih.bind_pure
      exact more c chunks d read

theorem Chunks.exhausts_read : Exhausts Chunks.read := exhausts_readUpTo limit

theorem CallRequest.exhausts_read : Exhausts CallRequest.read :=
  .bind fun _ => .bind fun _ => .bind fun _ => .bind fun _ => .bind fun _ => .bind fun _ =>
    Chunks.exhausts_read.bind_pure

theorem CallResponse.exhausts_read : Exhausts CallResponse.read :=
  .bind fun _ => .bind fun _ => .bind fun _ => .bind fun _ => .bind fun _ =>
    Chunks.exhausts_read.bind_pure

theorem Continuation.exhausts_read : Exhausts Continuation.read :=
  .bind fun _ => .bind fun _ => Chunks.exhausts_read.bind_pure

/-- **A body that carries argument chunks goes on to the end of the buffer.** -/
theorem Body.ahead_of_read {type : FrameType} {b : Body ErrorResponse} {c d : Cursor}
    (chunks : type.carriesChunks = true) (read : Body.read type c = .ok (b, d)) : d.ahead = [] := by
  cases type with
  | callRequest => exact CallRequest.exhausts_read.map callRequest c b d read
  | callResponse => exact CallResponse.exhausts_read.map callResponse c b d read
  | callRequestCont => exact Continuation.exhausts_read.map callRequestCont c b d read
  | callResponseCont => exact Continuation.exhausts_read.map callResponseCont c b d read
  | _ => cases chunks

namespace Frame

/-- **The size of a frame counts the bytes that its body left unread.** A frame that was read takes
no more bytes than it declared. If its header pairs have distinct keys, as they stand on the wire,
the declared size is that of the frame and the bytes between the end of its body and the end of the
frame. Behind argument chunks there are none. -/
theorem size_of_readFrame {p q : ConnectionPools} {buf : Bytes} {offset stop : Nat}
    {h : Pooled Frame} (read : p.readFrame buf offset = (.ok (stop, h), q)) :
    ∃ header body pairs pairsStop bodyStop frame n,
      FrameHeader.read buf offset = .ok header ∧ stop = offset + header.size.toNat ∧
      (Body.readPairs header.type).runAt (buf.take stop) (offset + FrameLayout.bodyOffset) =
        .ok (pairsStop, pairs) ∧
      (p.readBody header.type (buf.take stop) (offset + FrameLayout.bodyOffset)).1 =
        .ok (bodyStop, body) ∧
      h.value? = some frame ∧ frame.size = header.size ∧ frame.body? = some body ∧
      frame.length = .ok n ∧ n ≤ frame.size.toNat ∧ bodyStop ≤ stop ∧
      ((pairs.map (·.1)).Nodup → frame.size.toNat = n + (stop - bodyStop)) ∧
      (header.type.carriesChunks = true → bodyStop = stop) := by
  obtain ⟨inside, header, bodyStop, b, parsed, rfl, hbody, rfl⟩ :=
    ConnectionPools.readFrame_eq_ok_iff.mp (congrArg Prod.fst read)
  obtain ⟨large, declared, -⟩ := FrameHeader.parse_eq_ok_iff.mp parsed
  have ends : offset + header.size.toNat ≤ buf.length := declared ▸ inside.2
  have start : (Cursor.openAt (buf.take (offset + header.size.toNat))
      (offset + FrameLayout.bodyOffset)).beyond = false := by
    apply Cursor.inside_openAt
    rw [List.length_take, FrameLayout.bodyOffset]
    omega
  obtain ⟨d, hread, rfl⟩ := Reader.runAt_eq_ok_iff.mp hbody
  obtain ⟨pairs, e, stood, bs, hpairs, ahead, pos, -, -, measured, less, same⟩ :=
    Body.written_of_read start hread
  have total := congrArg List.length ahead
  rw [Cursor.openAt, List.length_drop, List.length_take, Nat.min_eq_left ends, List.length_append,
    FrameLayout.bodyOffset] at total
  simp only [Cursor.openAt, FrameLayout.bodyOffset] at pos
  have taken : length ⟨header.size, header.id, some (.pooled b)⟩ =
      .ok (FrameLayout.overhead + bs.length) := by
    refine bind_eq_ok_iff.mpr ⟨.pooled b, rfl, ?_⟩
    rw [HeldBody.length_pooled, measured]
    rfl
  refine ⟨header, .pooled b, pairs, e.pos, d.pos, _, _, ?_, rfl,
    Reader.runAt_eq_ok_iff.mpr ⟨e, hpairs, rfl⟩, ?_, rfl, rfl, rfl, taken, ?_, ?_, ?_, ?_⟩
  · rw [FrameHeader.read_eq_parse inside, parsed]
  · rw [ConnectionPools.readBody_fst, hbody]
    rfl
  · show FrameLayout.overhead + bs.length ≤ header.size.toNat
    omega
  · omega
  · intro distinct
    show header.size.toNat = _
    rw [same.mpr distinct]
    omega
  · intro chunks
    rw [Body.ahead_of_read chunks hread, List.length_nil] at total
    omega

/-- A ping with one byte behind its empty body. -/
def paddedPing : Bytes :=
  [0, 17, FrameType.pingRequest.number, 0, 0, 0, 0, 5] ++ Bytes.zeros 8 ++ [0xff]

theorem size_of_readFrame_paddedPing :
    ∃ h q frame n bodyStop, ConnectionPools.empty.readFrame paddedPing 0 = (.ok (17, h), q) ∧
      h.value? = some frame ∧ frame.length = .ok n ∧ frame.size = 17 ∧ bodyStop ≤ 17 ∧
      frame.size.toNat = n + (17 - bodyStop) := by
  have read : ∃ h q, ConnectionPools.empty.readFrame paddedPing 0 = (.ok (17, h), q) :=
    ⟨_, _, rfl⟩
  obtain ⟨h, q, read⟩ := read
  obtain ⟨header, _, pairs, _, bodyStop, frame, n, hheader, -, hpairs, -, held, size, -, length,
    -, within, hidden, -⟩ := size_of_readFrame read
  have known : FrameHeader.read paddedPing 0 = .ok ⟨17, .pingRequest, 5⟩ := rfl
  rw [known] at hheader
  cases hheader
  cases hpairs
  exact ⟨h, q, frame, n, bodyStop, read, held, length, size, within, hidden .nil⟩

/-- The size of a padded ping is not its length, though no header of it is repeated. -/
theorem size_ne_length_paddedPing :
    ∃ h q frame n, ConnectionPools.empty.readFrame paddedPing 0 = (.ok (17, h), q) ∧
      (Body.readPairs .pingRequest).runAt paddedPing 16 = .ok (16, []) ∧
      h.value? = some frame ∧ frame.length = .ok n ∧ frame.size.toNat ≠ n := by
  refine ⟨_, _, _, _, rfl, rfl, rfl, rfl, ?_⟩
  decide

end Frame

end CallWire
