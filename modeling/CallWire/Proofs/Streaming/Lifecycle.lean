import CallWire.Proofs.Streaming.Settled

/-!
# What the observer of a streaming response is told

Whatever is called, in whatever order, and whenever the outlet closes: the observer is told that the
response has finished exactly when it has ended, and nothing from then on. It is told of an error
exactly by a call that sends one in time (`run_lifecycle`).
-/

namespace CallWire.StreamingResponse

open Response

/-- What the observer of a streaming response is told, whatever is called. -/
structure Lifecycle (config : ResponseConfig) (s : StreamingResponse) : Prop where
  /-- The end has been told once if the response has ended, and never otherwise. -/
  finished : s.core.events.count .finished = if s.core.state.isTerminal then 1 else 0
  last : ∀ front back, s.core.events = front ++ .finished :: back → back = []
  /-- An error has been told no more than once, and right before the end. -/
  errored : ∀ front code message back, s.core.events = front ++ .errored code message :: back →
    (∀ code message, .errored code message ∉ front) ∧ back = [.finished]
  /-- A call that sends an error in time tells of it and of the end. -/
  fails : ∀ code message, s.core.state.isTerminal = false →
    (s.step (.sendError code message)).2.core.events =
      s.core.events ++ [.errored code message, .finished]
  /-- No other call tells of an error. -/
  others : ∀ a, (∀ code message, a = .sendError code message → s.core.state.isTerminal = true) →
    TellsOn s.core (s.step a).2.core
  queue : s.queue = []
  sound : ∀ a, NoBreach (s.step a).1
  /-- If the first frame has room for a chunk, the arguments are over exactly with the response. -/
  spent : config.Roomy → (s.args.finished = true ↔ s.core.state.isTerminal = true)

/-- **The observer is told of the life of a response as it is,** whatever is called and whenever the
outlet closes. -/
theorem run_lifecycle {id : UInt32} {config : ResponseConfig} {start : StreamingResponse}
    (made : make id config = .ok start) (actions : List Action) :
    Lifecycle config (start.run actions) := by
  obtain ⟨settled, config, complete⟩ := settled_make made
  obtain ⟨h, same, whole⟩ := run_settled settled actions
  refine ⟨h.informed.finished_count, fun _ _ => h.informed.finished_last,
    fun _ _ _ _ => h.informed.errored_once, ?_, ?_, h.queue, ?_, ?_⟩
  · intro code message live
    exact (sendError_settled h live code message).2.2.2.1
  · exact fun a other => (step_continues h other).1.tells
  · exact fun a => (step_settled h a).2.2.1
  · intro roomy
    constructor
    · intro finished
      refine whole (config ▸ roomy) complete ?_
      rcases h.resting with ⟨n, -, idle⟩ | spent
      · rw [idle] at finished
        cases finished
      · exact spent
    · intro terminal
      rw [h.spent terminal]
      rfl

/-- The outlet closes while frames wait, and the last argument is ended too late. -/
theorem run_lifecycle_of_closing : ∃ start, make 7 ⟨64, .empty, some 1⟩ = .ok start ∧
    (⟨64, .empty, some 1⟩ : ResponseConfig).Roomy ∧
    Lifecycle ⟨64, .empty, some 1⟩ (start.run [.setOk true, .write .arg2 [1, 2, 3], .endArg .arg2,
      .write .arg2 [4], .closeOutletAfter 1, .onDrain 3, .endArg .arg3]) :=
  ⟨_, rfl, ⟨1, rfl, by decide⟩, run_lifecycle rfl _⟩

end CallWire.StreamingResponse
