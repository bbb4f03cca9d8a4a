import CallWire.Proofs.Response.Delivery
import CallWire.Proofs.Response.Encoding

/-!
# What the frames of a response carry

As long as the outlet is open and no error is sent, every batch of a response is delivered whole.
Together the frames that were sent and those that wait carry the arguments that the batches make up
(`Carrying`), whether or not there is credit for them.

* `Carrying.sendParts`: a batch adds its chunks;
* `Carrying.onDrain`: granting credits changes nothing.
-/

namespace CallWire.Response

variable {r s : Response} {args : List Bytes}

/-- The frames of the response carry `args`, all of them can be read, and more can be sent. -/
structure Carrying (r : Response) (args : List Bytes) : Prop where
  valid : r.config.validate = .ok ()
  roomy : r.config.Roomy
  distinct : r.config.headers.keys.Nodup
  orderly : r.Orderly
  unlimited : r.outlet.room? = none
  carried : reassemble (r.stream.map Frame.chunks) = args
  readable : ∀ f ∈ r.stream, f.Readable

theorem isOpen_of_unlimited (unlimited : r.outlet.room? = none) : r.outlet.isOpen = true := by
  simp [Outlet.isOpen, unlimited]

theorem not_blocked (unlimited : r.outlet.room? = none) : ¬ r.Blocked := by
  rintro ⟨closed, -⟩
  exact absurd ((isOpen_of_unlimited unlimited).symm.trans closed) (by simp)

namespace Carrying

/-- What changes neither the frames nor what they are made from. -/
theorem of_same (h : r.Carrying args) (config : s.config = r.config) (orderly : s.Orderly)
    (outlet : s.outlet = r.outlet) (backlog : s.backlog = r.backlog) : s.Carrying args := by
  have stream : s.stream = r.stream := by rw [stream, outlet, backlog, Response.stream]
  exact ⟨config ▸ h.valid, config ▸ h.roomy, config ▸ h.distinct, orderly, outlet ▸ h.unlimited,
    stream ▸ h.carried, stream ▸ h.readable⟩

theorem delivers {t : Response} {frames : List Frame} {chunks : List Bytes} {isLast opening : Bool}
    (h : r.Carrying args) (config : s.config = r.config) (stream : s.stream = r.stream)
    (unlimited : s.outlet.room? = none) (d : Delivers s frames t)
    (batch : r.Batch chunks isLast opening frames) (filled : chunks ≠ [])
    (few : chunks.length ≤ Chunks.limit) : t.Carrying (joinBatch args chunks) := by
  have same : t.config = r.config := d.config_eq.trans config
  have joined := batch.joined
  refine ⟨same ▸ h.valid, same ▸ h.roomy, same ▸ h.distinct, d.orderly, d.unlimited unlimited,
    ?_, ?_⟩
  · rw [d.stream, stream, List.map_append, reassemble_append_joined _ (joined ▸ filled), joined,
      h.carried]
  · intro f hf
    rw [d.stream, stream] at hf
    rcases List.mem_append.mp hf with hf | hf
    · exact h.readable f hf
    · exact batch.readable h.valid h.distinct few f hf

/-- **A batch is sent whole,** and its chunks go on with the arguments that came before. -/
theorem sendParts (h : r.Carrying args) (live : r.state.isTerminal = false) {chunks : List Bytes}
    (filled : chunks ≠ []) (few : chunks.length ≤ Chunks.limit) (isLast : Bool) :
    ∃ s, r.sendParts chunks isLast = (.ok (), s) ∧ s.Carrying (joinBatch args chunks) ∧
      s.state = if isLast then .done else .started := by
  have sent := partsSent h.orderly chunks isLast
  generalize r.sendParts chunks isLast = result at sent
  have unlimited : r.begun.outlet.room? = none := by
    rw [begun_outlet]
    exact h.unlimited
  cases sent with
  | ended terminal => exact absurd (terminal.symm.trans live) (by simp)
  | uncut live uncut =>
    obtain ⟨frames, cut⟩ := fragment_ok_of_roomy h.valid h.roomy chunks isLast _
    rw [cut] at uncut
    cases uncut
  | broken live cut d blocked => exact absurd blocked (not_blocked (d.unlimited unlimited))
  | @sent frames s live cut d =>
    have batch := batch_of_fragment h.valid cut
    have carrying := h.delivers (begun_config r) (begun_stream r) unlimited d batch filled few
    refine ⟨_, rfl, ?_, ?_⟩
    · cases isLast with
      | true => exact carrying.of_same rfl carrying.orderly rfl rfl
      | false => exact carrying
    · cases isLast with
      | true => rfl
      | false => exact d.state_eq.trans (begun_state live)

/-- Granting credits changes nothing of what the frames carry. -/
theorem onDrain (h : r.Carrying args) (granted : UInt32) :
    (r.onDrain granted).2.Carrying args ∧ (r.onDrain granted).2.state = r.state := by
  have drained := drained r granted
  generalize r.onDrain granted = result at drained
  cases drained with
  | unmetered free => exact ⟨h, rfl⟩
  | released d left =>
    have same := d.config_eq
    have stream := d.stream
    rw [List.append_nil] at stream
    exact ⟨⟨same ▸ h.valid, same ▸ h.roomy, same ▸ h.distinct, d.orderly, d.unlimited h.unlimited,
      stream ▸ h.carried, stream ▸ h.readable⟩, d.state_eq⟩
  | broken waiting d blocked => exact absurd blocked (not_blocked (d.unlimited h.unlimited))

theorem finish (h : r.Carrying args) : r.finish.Carrying args := by
  unfold Response.finish
  split
  · exact h.of_same rfl h.orderly rfl rfl
  · exact h

end Carrying

end CallWire.Response
