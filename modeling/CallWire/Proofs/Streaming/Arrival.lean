import CallWire.Proofs.Receiving
import CallWire.Proofs.Streaming.Intact

/-!
# Streamed responses arrive intact

As long as the outlet is open and no error is sent, the frames of a streaming response carry the
arguments as they were accepted, after every call. Once the response is complete and nothing waits,
its frames can be encoded in a row, and whoever receives these bytes, in whatever pieces, gets the
same arguments (`run_arrives`).
-/

namespace CallWire.StreamingResponse

/-- What a receiver has made of the bytes of frames, when it has taken out all it could. -/
structure Received (sent : List Frame) (args : List Bytes) (r : Receiver) : Prop where
  faults : r.faults = []
  left : r.splitter.buffered = []
  /-- One frame was handed out for each that was sent, in order. -/
  frames : r.frames = sent.map Frame.lazy
  args : r.args = args

/-- What becomes of the arguments that the history tells of. -/
structure Arrives (log : List (Action × Answer Unit)) (s : StreamingResponse) : Prop where
  /-- The frames that were sent and those that wait carry the arguments opened so far. -/
  carried : reassemble ((s.core.outlet.sent ++ s.core.backlog).map Frame.chunks) =
    [[], content .arg2 log, content .arg3 log].take (opened log)
  /-- Once all frames have been sent, they arrive, however their bytes are cut and whenever the
  receiver is asked for them. -/
  arrive : s.core.state = .done → s.core.backlog = [] →
    ∃ wire, Frame.appendAll [] s.core.outlet.sent = (wire, .ok ()) ∧
      ∀ (pools : ConnectionPools) (schedule : List Receiver.Action),
        Receiver.arriving schedule = wire →
        Received s.core.outlet.sent [[], content .arg2 log, content .arg3 log]
          ((Receiver.waiting pools).run schedule).takeAll

/-- **Streamed responses arrive intact,** whatever is called and whatever credits there are. -/
theorem run_arrives {id : UInt32} {config : ResponseConfig} {start : StreamingResponse}
    (made : make id config = .ok start) (distinct : config.headers.keys.Nodup)
    (roomy : config.Roomy) {actions : List Action} (ordinary : ∀ a ∈ actions, Ordinary a) :
    Arrives (history start actions) (start.run actions) := by
  have begun : Intact [] start := intact_make made distinct roomy
  have intact : Intact (history start actions) (start.run actions) := run_intact begun ordinary
  have carrying := intact.carrying
  refine ⟨carrying.carried, ?_⟩
  intro done drained
  have all : arguments (history start actions) =
      [[], content .arg2 (history start actions), content .arg3 (history start actions)] := by
    rcases intact with ⟨n, running⟩ | ended
    · have live := running.live
      rw [done] at live
      cases live
    · rw [arguments, ended.opened.count]
      rfl
  have stream : (start.run actions).core.stream = (start.run actions).core.outlet.sent := by
    rw [Response.stream, drained, List.append_nil]
  have readable := carrying.readable
  have carried := carrying.carried
  rw [stream] at readable carried
  refine ⟨_, Frame.appendAll_ok readable [], ?_⟩
  intro pools schedule whole
  obtain ⟨left, decoded⟩ := Receiver.run_receives readable pools whole
  refine ⟨?_, left, decoded.taken, ?_⟩
  · rw [Receiver.faults, decoded.failed, List.reverse_nil]
  · rw [decoded.args_eq, carried, all]

/-- Settings with small frames and a single credit. -/
def smallFrames : ResponseConfig := ⟨64, .empty, some 1⟩

/-- The second argument is ended twice and then written too late; the third needs several frames,
which are sent as credits come in. -/
def lateWrites : List Action :=
  [.setOk true, .write .arg2 [1, 2, 3], .endArg .arg2, .endArg .arg2,
    .send [4] (List.replicate 100 5), .onDrain 1, .onDrain 8]

theorem run_arrives_lateWrites : ∃ start, make 7 smallFrames = .ok start ∧
    smallFrames.headers.keys.Nodup ∧ smallFrames.Roomy ∧ (∀ a ∈ lateWrites, Ordinary a) ∧
    (start.run lateWrites).core.state = .done ∧ (start.run lateWrites).core.backlog = [] ∧
    content .arg2 (history start lateWrites) = [1, 2, 3] ∧
    content .arg3 (history start lateWrites) = List.replicate 100 5 ∧
    Arrives (history start lateWrites) (start.run lateWrites) := by
  have distinct : smallFrames.headers.keys.Nodup := List.nodup_nil
  have roomy : smallFrames.Roomy := ⟨1, rfl, by decide⟩
  have ordinary : ∀ a ∈ lateWrites, Ordinary a := by simp [lateWrites, Ordinary]
  refine ⟨_, rfl, distinct, roomy, ordinary, ?_, ?_, ?_, ?_,
    run_arrives rfl distinct roomy ordinary⟩
  · decide +kernel
  · decide +kernel
  · decide +kernel
  · decide +kernel

end CallWire.StreamingResponse
