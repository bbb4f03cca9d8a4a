import CallWire.Proofs.Lengths
import CallWire.Proofs.Response.Batches
import CallWire.Proofs.Splitting

/-!
# Response frames can be encoded

A batch of no more than three parts is cut into frames that can all be encoded and read back
(`Batch.readable`): none holds more chunks than a frame may hold, none is too large for the size
field, and the sizes of their bodies are what the chunks were laid out with.
-/

namespace CallWire

/-- Few chunks that fit a frame have the size that they are laid out with. -/
theorem Chunks.length_ok {chunks : List Bytes} (few : chunks.length ≤ limit)
    (small : Fragment.sizeOf chunks ≤ Width.wide.limit) :
    Chunks.length chunks = .ok (Fragment.sizeOf chunks) := by
  have counted : sizes chunks = .ok (Fragment.sizeOf chunks) := by
    clear few
    induction chunks with
    | nil => rfl
    | cons chunk rest ih =>
      have total : Fragment.sizeOf (chunk :: rest) = 2 + chunk.length + Fragment.sizeOf rest := rfl
      have fits : ¬ Width.wide.limit < chunk.length := by omega
      unfold sizes
      rw [if_neg fits, ih (by omega), total]
      rfl
  unfold Chunks.length
  rw [if_neg (Nat.not_lt.mpr few), counted]

namespace Frame

/-- The size of the frame's body on the wire. -/
def bodyLength (f : Frame) : Outcome Nat := do (← f.body).length

/-- The body of the frame is written as `n` bytes, as can be worked out beforehand. -/
def Takes (f : Frame) (n : Nat) : Prop :=
  ∃ body, f.body? = some body ∧ body.length = .ok n ∧ Spells body.segments n

variable {f : Frame} {n : Nat}

theorem Takes.bodyLength (takes : f.Takes n) : f.bodyLength = .ok n := by
  obtain ⟨body, held, length, -⟩ := takes
  exact bind_eq_ok_iff.mpr ⟨body, body_eq_ok_iff.mpr held, length⟩

/-- A frame can be encoded if its body has a string of the size that was worked out. -/
theorem Takes.encode_ok (takes : f.Takes n)
    (small : FrameLayout.overhead + n ≤ FrameLayout.maxSize) : ∃ g, f.encode = .ok (f.wire, g) := by
  obtain ⟨body, held, length, bs, spelled, rfl⟩ := takes
  have encoded := encode_eq_ok_iff.mpr ⟨body, bs, held, spelled, length, small, rfl, rfl⟩
  exact ⟨_, wire_of_encode encoded ▸ encoded⟩

end Frame

namespace Response

variable {r : Response} {parts : List Bytes} {isLast opening : Bool} {frames : List Frame}
  {f : Fragment} {n : Nat}

/-- Chunks that are laid out within a body of a response can be written. -/
theorem chunks_of_within (valid : r.config.validate = .ok ())
    (few : f.chunks.length ≤ Chunks.limit)
    (within : n + Fragment.sizeOf f.chunks ≤ r.config.maxBodySize) :
    Chunks.length f.chunks = .ok (Fragment.sizeOf f.chunks) ∧
      FrameLayout.overhead + (n + Fragment.sizeOf f.chunks) ≤ FrameLayout.maxSize := by
  obtain ⟨-, large, -⟩ := ResponseConfig.within_of_validate valid
  simp only [FrameLayout.maxBodySize, FrameLayout.maxSize, FrameLayout.overhead] at large ⊢
  refine ⟨Chunks.length_ok few ?_, by omega⟩
  show Fragment.sizeOf f.chunks ≤ 65535
  omega

theorem takes_continuing (chunks : Chunks.length f.chunks = .ok (Fragment.sizeOf f.chunks)) :
    (r.frameOf false f).Takes (Fragment.contPreamble + Fragment.sizeOf f.chunks) := by
  let part : Continuation :=
    { flags := if f.more then moreFragments else 0, checksum := .absent, args := f.chunks }
  have size : part.length = .ok (Fragment.contPreamble + Fragment.sizeOf f.chunks) :=
    bind_eq_ok_iff.mpr ⟨_, chunks, rfl⟩
  refine ⟨.callResponseCont part, rfl, ?_, Continuation.spells size⟩
  show Outcome.ofExcept part.length = _
  rw [size]
  rfl

theorem takes_opening (preamble : r.openingPreamble = .ok n)
    (chunks : Chunks.length f.chunks = .ok (Fragment.sizeOf f.chunks)) :
    (r.frameOf true f).Takes (n + Fragment.sizeOf f.chunks) := by
  obtain ⟨headers, hheaders, preamble⟩ := bind_eq_ok_iff.mp preamble
  cases preamble
  let response : CallResponse :=
    { flags := if f.more then moreFragments else 0, code := r.code, tracing := r.tracing,
      headers := r.config.headers, checksum := .absent, args := f.chunks }
  have size : response.length = .ok (1 + 1 + Tracing.width + headers + 1 +
      Fragment.sizeOf f.chunks) :=
    bind_eq_ok_iff.mpr ⟨_, hheaders, bind_eq_ok_iff.mpr ⟨_, chunks, rfl⟩⟩
  refine ⟨.callResponse response, rfl, ?_, CallResponse.spells size⟩
  show Outcome.ofExcept response.length = _
  rw [size]
  rfl

/-- A fragment that was laid out within the size of a body becomes a frame with a body of the size
that it was laid out with, and such a frame can be encoded. -/
theorem takes_frameOf (valid : r.config.validate = .ok ()) (preamble : r.preamble opening = .ok n)
    (few : f.chunks.length ≤ Chunks.limit)
    (within : n + Fragment.sizeOf f.chunks ≤ r.config.maxBodySize) :
    (r.frameOf opening f).Takes (n + Fragment.sizeOf f.chunks) ∧
      ∃ g, (r.frameOf opening f).encode = .ok ((r.frameOf opening f).wire, g) := by
  obtain ⟨chunks, small⟩ := chunks_of_within valid few within
  have takes : (r.frameOf opening f).Takes (n + Fragment.sizeOf f.chunks) := by
    cases opening with
    | true => exact takes_opening (openingPreamble_of_preamble preamble) chunks
    | false =>
      cases preamble
      exact takes_continuing chunks
  exact ⟨takes, takes.encode_ok small⟩

theorem readable_frameOf (distinct : r.config.headers.keys.Nodup)
    (encodes : ∃ g, (r.frameOf opening f).encode = .ok ((r.frameOf opening f).wire, g)) :
    (r.frameOf opening f).Readable := by
  obtain ⟨g, encoded⟩ := encodes
  cases opening with
  | true => exact ⟨_, g, rfl, distinct, encoded⟩
  | false => exact ⟨_, g, rfl, trivial, encoded⟩

/-- The frames of a batch have bodies within the size that was set and can be encoded, if the batch
has no more parts than a frame may have chunks. -/
theorem Batch.encodes (b : r.Batch parts isLast opening frames)
    (valid : r.config.validate = .ok ()) (few : parts.length ≤ Chunks.limit) :
    ∀ f ∈ frames, ∃ opening k n, f = r.frameOf opening k ∧ f.Takes n ∧
      n ≤ r.config.maxBodySize ∧ ∃ g, f.encode = .ok (f.wire, g) := by
  obtain ⟨n, first, rest, preamble, carries, rfl⟩ := b
  intro f hf
  rcases List.mem_cons.mp hf with rfl | hf
  · have fewer := Nat.le_trans (carries.few first List.mem_cons_self) few
    obtain ⟨takes, encodes⟩ := takes_frameOf valid preamble fewer carries.opening
    exact ⟨opening, first, _, rfl, takes, carries.opening, encodes⟩
  · obtain ⟨k, hk, rfl⟩ := List.mem_map.mp hf
    have fewer := Nat.le_trans (carries.few k (List.mem_cons_of_mem _ hk)) few
    have within := carries.continuing k hk
    have preamble : r.preamble false = .ok Fragment.contPreamble := rfl
    obtain ⟨takes, encodes⟩ := takes_frameOf valid preamble fewer within
    exact ⟨false, k, _, rfl, takes, within, encodes⟩

/-- **All frames of a batch can be encoded and read back,** if it has no more parts than a frame may
have chunks. -/
theorem Batch.readable (b : r.Batch parts isLast opening frames)
    (valid : r.config.validate = .ok ()) (distinct : r.config.headers.keys.Nodup)
    (few : parts.length ≤ Chunks.limit) : ∀ f ∈ frames, f.Readable := by
  intro f hf
  obtain ⟨opening, k, n, rfl, -, -, encodes⟩ := b.encodes valid few f hf
  exact readable_frameOf distinct encodes

end Response

end CallWire
