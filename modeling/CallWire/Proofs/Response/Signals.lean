import CallWire.Proofs.Response.Batches
import CallWire.Proofs.Response.Delivery

/-!
# The frames of a response in each state

Until a response ends, none of its frames ends it. A response that is done has the frame that ends
it as the last of its stream, unless its outlet has refused a frame; one that has failed sends
nothing more.

* `Calling`: what holds of the frames as long as no error frame has been sent;
* `Overtaken`: what holds once an error frame has been sent;
* `step_signals`: every operation keeps to the one or leads to the other.
-/

namespace CallWire

namespace Response

variable {r s : Response}

/-- No frame ends the response. -/
def Unended (frames : List Frame) : Prop := ∀ f ∈ frames, f.isTerminal = false

theorem Unended.append {front back : List Frame} (first : Unended front) (second : Unended back) :
    Unended (front ++ back) := by
  intro f hf
  rcases List.mem_append.mp hf with hf | hf
  · exact first f hf
  · exact second f hf

theorem Unended.of_append {front back : List Frame} (h : Unended (front ++ back)) :
    Unended front :=
  fun f hf => h f (List.mem_append_left back hf)

/-- The frames sent and those that wait, as they can be in a state. -/
def Phase (r : Response) : ResponseState → Prop
  | .initial => r.stream = []
  | .started => r.stream ≠ [] ∧ Unended r.stream
  | .done => (∃ front last, r.stream = front ++ [last] ∧ Unended front ∧ last.isTerminal = true) ∨
      r.Blocked ∧ Unended r.stream
  | .error => r.backlog = [] ∧ Unended r.stream

/-- The response has sent no error frame, and its frames fit its state. -/
structure Calling (r : Response) : Prop where
  valid : r.config.validate = .ok ()
  orderly : r.Orderly
  ids : ∀ f ∈ r.stream, f.id = r.id
  run : CallRun r.stream
  phase : r.Phase r.state

/-- The response has been ended by an error frame. -/
structure Overtaken (r : Response) : Prop where
  state : r.state = .error
  backlog : r.backlog = []
  sent : ∃ calls e, r.outlet.sent = calls ++ [e] ∧ CallRun calls ∧ Unended calls ∧
    (∀ f ∈ calls, f.id = r.id) ∧ e.id = r.id ∧ e.type? = some .errorResponse

namespace Keeps

theorem calling (k : Keeps r s) (c : Calling r) : Calling s where
  valid := by rw [k.config, c.valid]
  orderly := k.orderly c.orderly
  ids := by
    rw [k.stream, k.id]
    exact c.ids
  run := by
    rw [k.stream]
    exact c.run
  phase := by
    have phase := c.phase
    rw [k.state]
    cases state : r.state with
    | initial | started =>
      rw [state] at phase
      simpa only [Phase, k.stream] using phase
    | error =>
      rw [state] at phase
      simpa only [Phase, k.stream, k.backlog] using phase
    | done =>
      rw [state] at phase
      rcases phase with ended | ⟨⟨closed, backlog⟩, unended⟩
      · exact Or.inl (k.stream ▸ ended)
      · exact Or.inr ⟨⟨k.closed closed, k.backlog ▸ backlog⟩, k.stream ▸ unended⟩

end Keeps

/-- A response whose outlet refuses a frame ends without that frame. -/
theorem calling_failTransport (valid : r.config.validate = .ok ())
    (ids : ∀ f ∈ r.stream, f.id = r.id) (run : CallRun r.stream) (unended : Unended r.stream)
    (blocked : r.Blocked) : Calling r.failTransport := by
  have same : r.cutOff.stream = r.stream := by
    simp [stream, cutOff, blocked.2]
  have phase : r.cutOff.Phase r.cutOff.state := by
    show r.cutOff.Phase (if r.state.isTerminal then r.state else .error)
    cases r.state with
    | initial | started | error => exact ⟨rfl, same ▸ unended⟩
    | done => exact Or.inr ⟨⟨blocked.1, rfl⟩, same ▸ unended⟩
  rw [failTransport_eq]
  exact (keeps_finish _).calling ⟨valid, fun _ => rfl, same ▸ ids, same ▸ run, phase⟩

/-- Only the last frame that is to be sent can end the response. -/
theorem Calling.unended_of_waiting {front back : List Frame} {f : Frame} (c : Calling r)
    (waiting : r.backlog = front ++ f :: back) : Unended (r.outlet.sent ++ front) := by
  have split : r.stream = r.outlet.sent ++ front ++ f :: back := by
    rw [stream, waiting, List.append_assoc]
  have phase := c.phase
  cases state : r.state with
  | initial =>
    rw [state] at phase
    simp [split, Phase] at phase
  | started =>
    rw [state] at phase
    exact Unended.of_append (split ▸ phase.2)
  | error =>
    rw [state] at phase
    simp [waiting, Phase] at phase
  | done =>
    rw [state] at phase
    rcases phase with ⟨before, last, ended, unended, -⟩ | ⟨⟨-, backlog⟩, -⟩
    · obtain ⟨more, rfl⟩ := prefix_of_concat (split.symm.trans ended)
      exact unended.of_append
    · simp [waiting] at backlog

theorem calling_drained {result : Answer Nat × Response} (c : Calling r) (h : Drained r result) :
    Calling result.2 := by
  cases h with
  | unmetered free => exact c
  | @released total s d left =>
    have stream : s.stream = r.stream := by rw [d.stream, List.append_nil]
    refine ⟨d.config_eq ▸ c.valid, d.orderly, d.id_eq ▸ stream ▸ c.ids, stream ▸ c.run, ?_⟩
    have phase := c.phase
    show s.Phase s.state
    rw [d.state_eq]
    cases state : r.state with
    | initial | started =>
      rw [state] at phase
      simpa only [Phase, stream] using phase
    | error =>
      rw [state] at phase
      rw [phase.1] at left
      exact ⟨List.suffix_nil.mp left, stream ▸ phase.2⟩
    | done =>
      rw [state] at phase
      rcases phase with ended | ⟨⟨closed, backlog⟩, unended⟩
      · exact Or.inl (stream ▸ ended)
      · rw [backlog] at left
        have shut : s.outlet.isOpen = false := by rw [d.closed closed, closed]
        exact Or.inr ⟨⟨shut, List.suffix_nil.mp left⟩, stream ▸ unended⟩
  | @broken front back f t waiting d blocked =>
    have all : r.stream = t.stream ++ f :: back := by
      rw [d.stream, List.append_nil]
      simp [stream, waiting]
    have unended : Unended t.stream := by
      rw [d.stream, List.append_nil]
      exact c.unended_of_waiting waiting
    refine calling_failTransport (d.config_eq ▸ c.valid) ?_ ?_ unended blocked
    · intro g hg
      rw [d.id_eq]
      exact c.ids g (all ▸ List.mem_append_left _ hg)
    · exact CallRun.of_append (all ▸ c.run)

/-- The frames of a batch go on with the call. -/
theorem Calling.run_batch {parts : List Bytes} {isLast : Bool} {frames : List Frame}
    (c : Calling r) (live : r.state.isTerminal = false)
    (b : r.Batch parts isLast (r.state = .initial) frames) :
    CallRun (r.stream ++ frames) ∧ Unended r.stream := by
  have phase := c.phase
  cases state : r.state with
  | initial =>
    rw [state] at phase b
    have unsent : r.stream = [] := phase
    rw [unsent]
    exact ⟨b.callRun rfl, by simp [Unended]⟩
  | started =>
    rw [state] at phase b
    exact ⟨c.run.append phase.1 (b.continues rfl), phase.2⟩
  | error | done =>
    rw [state] at live
    cases live

/-- The frames of a batch carry the id of the response, as far as they are delivered. -/
theorem Calling.ids_of_delivers {parts : List Bytes} {isLast opening : Bool}
    {front back : List Frame} (c : Calling r) (b : r.Batch parts isLast opening (front ++ back))
    (d : Delivers r.begun front s) : ∀ f ∈ s.stream, f.id = s.id := by
  intro f hf
  rw [d.stream, begun_stream] at hf
  rw [d.id_eq, begun_id]
  rcases List.mem_append.mp hf with hf | hf
  · exact c.ids f hf
  · exact b.ids f (List.mem_append_left back hf)

/-- A batch that is delivered whole ends the response if it is the last. -/
theorem calling_delivered {parts : List Bytes} {isLast : Bool} {frames : List Frame}
    (c : Calling r) (live : r.state.isTerminal = false)
    (b : r.Batch parts isLast (r.state = .initial) frames) (d : Delivers r.begun frames s) :
    Calling (if isLast then { s with state := .done } else s) := by
  obtain ⟨run, unended⟩ := c.run_batch live b
  obtain ⟨front, last, split, before, ends⟩ := b.marked
  have stream : s.stream = r.stream ++ frames := by rw [d.stream, begun_stream]
  have valid : s.config.validate = .ok () := by rw [d.config_eq, begun_config, c.valid]
  have whole : r.Batch parts isLast (r.state = .initial) (frames ++ []) := by
    rw [List.append_nil]
    exact b
  have ids := c.ids_of_delivers whole d
  cases isLast with
  | true =>
    refine ⟨valid, d.orderly, ids, stream ▸ run, Or.inl ⟨r.stream ++ front, last, ?_, ?_, ends⟩⟩
    · show s.stream = _
      rw [stream, split, List.append_assoc]
    · exact unended.append before
  | false =>
    have state : s.state = .started := by rw [d.state_eq, begun_state live]
    refine ⟨valid, d.orderly, ids, stream ▸ run, ?_⟩
    show s.Phase s.state
    rw [state]
    refine ⟨by simp [stream, split], ?_⟩
    rw [stream, split]
    refine unended.append (Unended.append before ?_)
    intro f hf
    rw [List.mem_singleton.mp hf]
    exact ends

/-- A batch that the outlet cuts short never includes the frame that ends the response. -/
theorem calling_broken {parts : List Bytes} {isLast : Bool} {front back : List Frame} {f : Frame}
    (c : Calling r) (live : r.state.isTerminal = false)
    (b : r.Batch parts isLast (r.state = .initial) (front ++ f :: back))
    (d : Delivers r.begun front s) (blocked : s.Blocked) : Calling s.failTransport := by
  obtain ⟨run, unended⟩ := c.run_batch live b
  obtain ⟨before, last, split, announced, -⟩ := b.marked
  obtain ⟨more, rfl⟩ := prefix_of_concat split
  have stream : s.stream = r.stream ++ front := by rw [d.stream, begun_stream]
  have valid : s.config.validate = .ok () := by rw [d.config_eq, begun_config, c.valid]
  rw [← List.append_assoc, ← stream] at run
  refine calling_failTransport valid (c.ids_of_delivers b d) run.of_append ?_ blocked
  rw [stream]
  exact unended.append (Unended.of_append announced)

theorem calling_partsSent {parts : List Bytes} {isLast : Bool} {result : Answer Unit × Response}
    (c : Calling r) (h : PartsSent r parts isLast result) : Calling result.2 := by
  cases h with
  | ended terminal => exact c
  | uncut live uncut => exact c
  | sent live cut d => exact calling_delivered c live (batch_of_fragment c.valid cut) d
  | broken live cut d blocked =>
    exact calling_broken c live (batch_of_fragment c.valid cut) d blocked

theorem Calling.unended_of_live (c : Calling r) (live : r.state.isTerminal = false) :
    Unended r.stream := by
  have phase := c.phase
  cases state : r.state with
  | initial =>
    rw [state] at phase
    rw [show r.stream = [] from phase]
    simp [Unended]
  | started =>
    rw [state] at phase
    exact phase.2
  | error | done =>
    rw [state] at live
    cases live

/-- The frames fit the state, or an error frame has ended the response. -/
def Signals (r : Response) : Prop := Calling r ∨ Overtaken r

theorem signals_errorSent {code : ErrorCode} {message : String} {result : Answer Unit × Response}
    (c : Calling r) (h : ErrorSent r code message result) : Signals result.2 := by
  cases h with
  | ended terminal => exact Or.inl c
  | @sent o live isOpen taken =>
    have unended : Unended (r.outlet.sent ++ r.backlog) := c.unended_of_live live
    have k := keeps_finish ({ r.noteSend with state := .error, backlog := [], outlet := o }.tell
      (.errored code message))
    refine Or.inr ⟨k.state, k.backlog, r.outlet.sent, r.errorFrame code message, ?_,
      CallRun.of_append c.run, unended.of_append, ?_, ?_, rfl⟩
    · rw [k.sent]
      exact taken
    · intro f hf
      rw [k.id]
      exact c.ids f (List.mem_append_left _ hf)
    · rw [k.id]
      rfl
  | lost live closed =>
    have unended : Unended (r.outlet.sent ++ r.backlog) := c.unended_of_live live
    have empty : stream { r.noteSend with state := .error, backlog := [] } = r.outlet.sent :=
      List.append_nil _
    refine Or.inl ((keeps_finish _).calling ⟨c.valid, fun _ => rfl, ?_, ?_, rfl, ?_⟩)
    · intro f hf
      exact c.ids f (List.mem_append_left _ (empty ▸ hf))
    · exact empty ▸ CallRun.of_append c.run
    · exact empty ▸ unended.of_append

/-- What is neither a batch, an error nor credits leaves the frames as they are. -/
theorem keeps_step (r : Response) {a : Action}
    (other : match a with
      | .sendParts _ _ | .sendError _ _ | .onDrain _ => False
      | _ => True) : Keeps r (r.step a).2 := by
  cases a with
  | setOk ok =>
    show Keeps r (r.setOk ok).2
    unfold setOk
    split
    · exact ⟨rfl, rfl, rfl, rfl, rfl, fun h => h, fun h => h⟩
    · exact ⟨rfl, rfl, rfl, rfl, rfl, fun h => h, fun h => h⟩
  | setCredits c => exact ⟨rfl, rfl, rfl, rfl, rfl, fun h => h, fun _ unmetered => by cases unmetered⟩
  | setSpan s => exact ⟨rfl, rfl, rfl, rfl, rfl, fun h => h, fun h => h⟩
  | finish => exact keeps_finish r
  | closeOutletAfter n =>
    exact ⟨rfl, rfl, rfl, rfl, rfl, fun h => Outlet.isOpen_closeAfter h n, fun h => h⟩
  | sendParts | sendError | onDrain => exact False.elim other

theorem calling_step (c : Calling r) (a : Action) : Signals (r.step a).2 := by
  cases a with
  | sendParts parts isLast => exact Or.inl (calling_partsSent c (partsSent c.orderly parts isLast))
  | sendError code message => exact signals_errorSent c (errorSent r code message)
  | onDrain granted => exact Or.inl (calling_drained c (drained r granted))
  | setOk | setCredits | setSpan | finish | closeOutletAfter =>
    exact Or.inl ((keeps_step r trivial).calling c)

/-- A response that has ended refuses batches and errors. -/
theorem step_ended (terminal : r.state.isTerminal = true) {a : Action}
    (sends : match a with
      | .sendParts _ _ | .sendError _ _ => True
      | _ => False) : (r.step a).2 = r := by
  cases a with
  | sendParts parts isLast =>
    show (r.sendParts parts isLast).2 = r
    simp [sendParts, ensureOpen, terminal]
  | sendError code message =>
    show (r.sendError code message).2 = r
    simp [sendError, ensureOpen, terminal]
  | setOk | onDrain | setCredits | setSpan | finish | closeOutletAfter => exact False.elim sends

/-- A response that has failed sends nothing more. -/
theorem failed_step (state : r.state = .error) (empty : r.backlog = []) (a : Action) :
    (r.step a).2.state = .error ∧ (r.step a).2.backlog = [] ∧
      (r.step a).2.outlet.sent = r.outlet.sent ∧ (r.step a).2.id = r.id := by
  have terminal : r.state.isTerminal = true := by rw [state]; rfl
  have kept {s : Response} (k : Keeps r s) :
      s.state = .error ∧ s.backlog = [] ∧ s.outlet.sent = r.outlet.sent ∧ s.id = r.id :=
    ⟨k.state.trans state, k.backlog.trans empty, k.sent, k.id⟩
  cases a with
  | sendParts | sendError =>
    rw [step_ended terminal trivial]
    exact ⟨state, empty, rfl, rfl⟩
  | onDrain granted =>
    have drained := drained r granted
    show (r.onDrain granted).2.state = _ ∧ (r.onDrain granted).2.backlog = _ ∧
      (r.onDrain granted).2.outlet.sent = _ ∧ (r.onDrain granted).2.id = _
    generalize r.onDrain granted = result at drained
    cases drained with
    | unmetered free => exact ⟨state, empty, rfl, rfl⟩
    | @released total s d left =>
      rw [empty] at left
      have nothing := List.suffix_nil.mp left
      have sent : s.outlet.sent = r.outlet.sent := by
        simpa [stream, nothing, empty] using d.stream
      exact ⟨d.state_eq.trans state, nothing, sent, d.id_eq⟩
    | broken waiting => simp [empty] at waiting
  | setOk | setCredits | setSpan | finish | closeOutletAfter => exact kept (keeps_step r trivial)

theorem overtaken_step (o : Overtaken r) (a : Action) : Overtaken (r.step a).2 := by
  obtain ⟨state, backlog, sent, id⟩ := failed_step o.state o.backlog a
  refine ⟨state, backlog, ?_⟩
  rw [sent, id]
  exact o.sent

theorem step_signals (h : Signals r) (a : Action) : Signals (r.step a).2 := by
  rcases h with c | o
  · exact calling_step c a
  · exact Or.inr (overtaken_step o a)

end Response

end CallWire
