import CallWire.FrameSplitter.Receiver
import CallWire.Proofs.Reassembly
import CallWire.Proofs.Splitting

/-!
# Receiving what was encoded

However the bytes of encoded frames are cut into pieces, and whenever the receiver is asked for a
frame, it decodes all frames in order and meets no fault (`run_receives`).

A receiver that lacks the bytes `unfed` has dealt with the frames whose bytes it has taken, and
holds the bytes of the others as far as they have arrived (`Receives`). Both arriving bytes and
asking for a frame keep this.
-/

namespace CallWire

/-- Appends frames to a buffer, up to the first that cannot be encoded. -/
def Frame.appendAll (dst : Bytes) : List Frame → Bytes × Outcome Unit
  | [] => (dst, .ok ())
  | f :: rest =>
      match f.encodeInto dst with
      | (dst, .ok _) => appendAll dst rest
      | (dst, .error fault) => (dst, .error fault)

/-- Readable frames can be appended to a buffer in a row. -/
theorem Frame.appendAll_ok {frames : List Frame} (readable : ∀ f ∈ frames, f.Readable)
    (dst : Bytes) : appendAll dst frames = (dst ++ frames.flatMap wire, .ok ()) := by
  induction frames generalizing dst with
  | nil => simp [appendAll]
  | cons f rest ih =>
    obtain ⟨body, g, -, -, encoded⟩ := readable f List.mem_cons_self
    unfold appendAll
    rw [encodeInto_of_encode encoded]
    simp only
    rw [ih fun k hk => readable k (List.mem_cons_of_mem _ hk), List.flatMap_cons, List.append_assoc]

/-- The body of a frame is decoded from its bytes. -/
theorem ConnectionPools.decodeBody_lazy {f g : Frame} {body : HeldBody}
    (held : f.body? = some body) (distinct : body.DistinctHeaders)
    (encoded : f.encode = .ok (f.wire, g)) (p : ConnectionPools) :
    ∃ read q, p.decodeBody f.lazy = (.ok (read, { f.lazy with body? := some read }), q) ∧
      read.contents = body.contents.canonical := by
  obtain ⟨body', bs, held', spelled, -, small, made, -⟩ := Frame.encode_eq_ok_iff.mp encoded
  rw [held, Option.some.injEq] at held'
  subst held'
  have inside : FrameLayout.bodyOffset ≤ f.wire.length := (Frame.size_of_encode encoded).1
  have behind : f.wire.drop FrameLayout.bodyOffset = bs := by
    rw [made, FrameLayout.bodyOffset, List.drop_left' (FrameHeader.length_bytes _)]
  obtain ⟨read, q, done, contents⟩ := p.readBody_of_spelled spelled distinct inside behind
  have type : f.type? = some body.frameType := by rw [Frame.type?, held, Option.map_some]
  refine ⟨read, q, ?_, contents⟩
  simp only [decodeBody, Frame.lazy, LazyFrame.view, type, done]

namespace Receiver

/-- What can happen to a receiver: bytes arrive, or it is asked to take a frame out. -/
inductive Action where
  | feed (bs : Bytes)
  | poll

/-- Takes one frame out, if one is complete. -/
def poll (r : Receiver) : Receiver :=
  match r.splitter.next r.pools with
  | (.ok none, pools, splitter) => { r with splitter, pools }
  | (.error fault, pools, splitter) => { r with splitter, pools }.fail fault
  | (.ok (some h), pools, splitter) => { r with splitter, pools }.accept h

def step (r : Receiver) : Action → Receiver
  | .feed bs => { r with splitter := r.splitter.feed bs }
  | .poll => r.poll

/-- The receiver after some actions. -/
def run (r : Receiver) (actions : List Action) : Receiver := actions.foldl step r

/-- All bytes that arrive. -/
def arriving (actions : List Action) : Bytes :=
  actions.flatMap fun
    | .feed bs => bs
    | .poll => []

/-- A receiver that gets by with the pools of its connection, and has received nothing. -/
def waiting (pools : ConnectionPools) : Receiver := ⟨.empty, pools, [], [], []⟩

variable {r : Receiver} {f g : Frame} {frames : List Frame} {unfed : Bytes}

/-- A body that was read back counts as the one that was written. -/
theorem collect_of_contents {read body : HeldBody} (same : read.contents = body.contents.canonical)
    (r : Receiver) : r.collect read = r.collect body := by
  cases body with
  | callResponse b =>
    cases read with
    | callResponse c =>
      cases same
      rfl
    | _ => cases same
  | callResponseCont b =>
    cases read with
    | callResponseCont c =>
      cases same
      rfl
    | _ => cases same
  | _ =>
    cases read with
    | callResponse | callResponseCont => cases same
    | _ => rfl

/-- The chunks of a body join those of the bodies before. -/
theorem joinAll_collect {body : HeldBody} (held : f.body? = some body) (r : Receiver) :
    joinAll (r.collect body).batches.reverse =
      joinAll (r.batches.reverse ++ [f.chunks]) := by
  cases body with
  | callResponse b | callResponseCont b =>
    simp [collect, Frame.chunks, held]
  | _ =>
    rw [joinAll_append, Frame.chunks, held, joinAll_singleton, joinBatch_nil]
    rfl

theorem collect_same (r : Receiver) (body : HeldBody) :
    (r.collect body).taken = r.taken ∧ (r.collect body).failed = r.failed := by
  cases body <;> exact ⟨rfl, rfl⟩

/-- The receiver has decoded `frames`, and met no fault. -/
structure Decoded (frames : List Frame) (r : Receiver) : Prop where
  taken : r.frames = frames.map Frame.lazy
  joined : joinAll r.batches.reverse = joinAll (frames.map Frame.chunks)
  failed : r.failed = []

/-- The receiver has decoded the front of `frames`. What it holds and the bytes that it lacks are
those of the others. -/
def Receives (frames : List Frame) (unfed : Bytes) (r : Receiver) : Prop :=
  ∃ front back, frames = front ++ back ∧ r.splitter.buffered ++ unfed = back.flatMap Frame.wire ∧
    Decoded front r

theorem Decoded.args_eq (d : Decoded frames r) : r.args = reassemble (frames.map Frame.chunks) := by
  rw [args, reassemble_eq, reassemble_eq, d.joined]

theorem receives_waiting (pools : ConnectionPools) (frames : List Frame) :
    Receives frames (frames.flatMap Frame.wire) (waiting pools) :=
  ⟨[], frames, rfl, rfl, rfl, rfl, rfl⟩

theorem receives_feed {bs : Bytes} (received : Receives frames (bs ++ unfed) r) :
    Receives frames unfed { r with splitter := r.splitter.feed bs } := by
  obtain ⟨front, back, split, bytes, d⟩ := received
  refine ⟨front, back, split, ?_, d.taken, d.joined, d.failed⟩
  rw [FrameSplitter.buffered_feed, List.append_assoc]
  exact bytes

/-- A frame that is handed out is decoded, and its chunks are noted. -/
theorem accept_lazy {h : Pooled LazyFrame} {body : HeldBody} (held : f.body? = some body)
    (distinct : body.DistinctHeaders) (encoded : f.encode = .ok (f.wire, g))
    (handle : h.value? = some f.lazy) (r : Receiver) :
    ∃ pools, r.accept h = collect { r with pools, taken := f.lazy :: r.taken } body := by
  obtain ⟨read, q, decoded, contents⟩ := r.pools.decodeBody_lazy held distinct encoded
  refine ⟨(q.freeLazyFrame { h with value? := some { f.lazy with body? := some read } }).2, ?_⟩
  unfold accept
  simp only [handle, decoded]
  exact collect_of_contents contents _

theorem decoded_accept {h : Pooled LazyFrame} (d : Decoded frames r) (readable : f.Readable)
    (handle : h.value? = some f.lazy) : Decoded (frames ++ [f]) (r.accept h) := by
  obtain ⟨body, g, held, distinct, encoded⟩ := readable
  obtain ⟨pools, accepted⟩ := accept_lazy held distinct encoded handle r
  obtain ⟨taken, failed⟩ := collect_same { r with pools, taken := f.lazy :: r.taken } body
  rw [accepted]
  refine ⟨?_, ?_, failed.trans d.failed⟩
  · rw [Receiver.frames, taken, List.reverse_cons, List.map_append, ← d.taken]
    rfl
  · rw [joinAll_collect held, joinAll_append, d.joined, ← joinAll_append, List.map_append]
    rfl

/-- What becomes of a receiver that is asked for a frame: none is complete, or the next one is
decoded. -/
theorem next_receives (readable : ∀ f ∈ frames, f.Readable) (received : Receives frames unfed r) :
    (∃ t, r.splitter.next r.pools = (.ok none, r.pools, t) ∧
      Receives frames unfed { r with splitter := t } ∧
      (unfed = [] → t.buffered = [] ∧ Decoded frames r)) ∨
    ∃ t q h, r.splitter.next r.pools = (.ok (some h), q, t) ∧
      Receives frames unfed ({ r with splitter := t, pools := q }.accept h) := by
  obtain ⟨front, back, rfl, bytes, d⟩ := received
  have kept {t : FrameSplitter} (same : t.buffered = r.splitter.buffered) :
      Receives (front ++ back) unfed { r with splitter := t } :=
    ⟨front, back, rfl, same ▸ bytes, d.taken, d.joined, d.failed⟩
  cases back with
  | nil =>
    obtain ⟨empty, -⟩ := List.append_eq_nil_iff.mp bytes
    obtain ⟨t, next, same⟩ := FrameSplitter.next_of_short r.pools (by rw [empty]; decide)
    refine Or.inl ⟨t, next, kept same, fun _ => ⟨same.trans empty, ?_⟩⟩
    rw [List.append_nil]
    exact d
  | cons f back =>
    have here := readable f (List.mem_append_right front List.mem_cons_self)
    obtain ⟨-, g, -, -, encoded⟩ := id here
    rcases FrameSplitter.next_of_encode encoded bytes r.pools with
      ⟨t, next, same, less⟩ | ⟨t, h, next, handle, left⟩
    · refine Or.inl ⟨t, next, kept same, ?_⟩
      -- with no byte lacking, the frame in front would have been complete
      rintro rfl
      have lengths := congrArg List.length bytes
      simp only [List.append_nil, List.flatMap_cons, List.length_append] at lengths
      omega
    · refine Or.inr ⟨t, _, h, next, front ++ [f], back, by simp, ?_, ?_⟩
      · rw [accept_splitter]
        exact left
      · exact decoded_accept ⟨d.taken, d.joined, d.failed⟩ here handle

theorem receives_poll (readable : ∀ f ∈ frames, f.Readable) (received : Receives frames unfed r) :
    Receives frames unfed r.poll := by
  unfold poll
  rcases next_receives readable received with ⟨t, next, kept, -⟩ | ⟨t, q, h, next, onward⟩
  · rw [next]
    exact kept
  · rw [next]
    exact onward

theorem receives_run (readable : ∀ f ∈ frames, f.Readable) {actions : List Action}
    (received : Receives frames (arriving actions ++ unfed) r) :
    Receives frames unfed (r.run actions) := by
  induction actions generalizing r with
  | nil => exact received
  | cons a rest ih =>
    apply ih
    cases a with
    | feed bs =>
      apply receives_feed
      rw [← List.append_assoc]
      exact received
    | poll => exact receives_poll readable received

/-- A receiver that lacks nothing decodes all frames that are left. -/
theorem decoded_takeAll (readable : ∀ f ∈ frames, f.Readable) (received : Receives frames [] r) :
    r.takeAll.splitter.buffered = [] ∧ Decoded frames r.takeAll := by
  fun_induction takeAll r with
  | case1 r pools splitter next =>
    rcases next_receives readable received with ⟨t, same, -, done⟩ | ⟨t, q, h, other, -⟩
    · rw [next] at same
      cases same
      obtain ⟨nothing, d⟩ := done rfl
      exact ⟨nothing, d.taken, d.joined, d.failed⟩
    · rw [next] at other
      cases other
  | case2 r fault pools splitter next =>
    rcases next_receives readable received with ⟨t, same, -, -⟩ | ⟨t, q, h, other, -⟩
    · rw [next] at same
      cases same
    · rw [next] at other
      cases other
  | case3 r h pools splitter next ih =>
    apply ih
    rcases next_receives readable received with ⟨t, same, -, -⟩ | ⟨t, q, k, other, onward⟩
    · rw [next] at same
      cases same
    · rw [next] at other
      cases other
      exact onward

/-- **Frames arrive however their bytes are cut,** and whenever the receiver is asked for them. -/
theorem run_receives (readable : ∀ f ∈ frames, f.Readable) (pools : ConnectionPools)
    {actions : List Action} (whole : arriving actions = frames.flatMap Frame.wire) :
    ((waiting pools).run actions).takeAll.splitter.buffered = [] ∧
      Decoded frames ((waiting pools).run actions).takeAll := by
  apply decoded_takeAll readable
  apply receives_run readable
  rw [List.append_nil, whole]
  exact receives_waiting pools frames

end Receiver

end CallWire
