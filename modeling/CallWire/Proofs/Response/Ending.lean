import CallWire.Proofs.Response.Signals

/-!
# How a response ends on the wire

Whatever is done with a response, in whatever order, and whenever the outlet closes: what has been
sent is a call response with its continuations, and then perhaps an error frame. The frame that
ends the response is the last that is sent, if it is sent at all (`run_endsOnce`).

* `step_advances`: the state moves forward only, and a state that ends the response stays;
* `sendError_last`: nothing is sent after an error frame.
-/

namespace CallWire

/-- How far a response has come. -/
def ResponseState.rank : ResponseState → Nat
  | initial => 0
  | started => 1
  | error | done => 2

theorem ResponseState.rank_le (s : ResponseState) : s.rank ≤ 2 := by
  cases s <;> decide

namespace Response

variable {r s : Response}

/-- From `r` to `s`, the response has gone on: its state has not gone back, one that ends the
response has stayed, and what had been sent is still what was sent first. -/
structure Advances (r s : Response) : Prop where
  id : s.id = r.id
  config : s.config = r.config
  rank : r.state.rank ≤ s.state.rank
  ended : r.state.isTerminal = true → s.state = r.state
  grown : r.outlet.sent <+: s.outlet.sent

namespace Advances

theorem refl (r : Response) : Advances r r :=
  ⟨rfl, rfl, Nat.le_refl _, fun _ => rfl, List.prefix_rfl⟩

theorem trans {t : Response} (first : Advances r s) (second : Advances s t) : Advances r t where
  id := second.id.trans first.id
  config := second.config.trans first.config
  rank := Nat.le_trans first.rank second.rank
  ended := by
    intro terminal
    have same := first.ended terminal
    rw [second.ended (same ▸ terminal), same]
  grown := first.grown.trans second.grown

theorem of_same (id : s.id = r.id) (config : s.config = r.config) (state : s.state = r.state)
    (grown : r.outlet.sent <+: s.outlet.sent) : Advances r s :=
  ⟨id, config, Nat.le_of_eq (congrArg _ state.symm), fun _ => state, grown⟩

theorem of_keeps (k : Keeps r s) : Advances r s :=
  of_same k.id k.config k.state (k.sent ▸ List.prefix_rfl)

/-- A response that has not ended can become anything further on. -/
theorem of_live (id : s.id = r.id) (config : s.config = r.config)
    (live : r.state.isTerminal = false) (rank : r.state.rank ≤ s.state.rank)
    (grown : r.outlet.sent <+: s.outlet.sent) : Advances r s :=
  ⟨id, config, rank, fun terminal => absurd (terminal.symm.trans live) (by simp), grown⟩

theorem failTransport (r : Response) : Advances r r.failTransport := by
  have cut : Advances r r.cutOff := by
    cases terminal : r.state.isTerminal with
    | true =>
      have same : r.cutOff.state = r.state := by simp [cutOff, terminal]
      exact of_same rfl rfl same List.prefix_rfl
    | false =>
      have failed : r.cutOff.state = .error := by simp [cutOff, terminal]
      exact of_live rfl rfl terminal (failed ▸ r.state.rank_le) List.prefix_rfl
  exact cut.trans (of_keeps (keeps_finish _))

theorem of_delivers {frames : List Frame} (d : Delivers r frames s) : Advances r s :=
  of_same d.id_eq d.config_eq d.state_eq d.grown

theorem begun (r : Response) (live : r.state.isTerminal = false) : Advances r r.begun := by
  refine of_live (begun_id r) (begun_config r) live ?_ ?_
  · rw [begun_state live]
    cases state : r.state with
    | initial | started => decide
    | error | done =>
      rw [state] at live
      cases live
  · unfold Response.begun
    split
    · exact List.prefix_rfl
    · exact List.prefix_rfl

end Advances

theorem Signals.orderly (h : Signals r) : r.Orderly := by
  rcases h with c | o
  · exact c.orderly
  · exact fun _ => o.backlog

theorem advances_partsSent {parts : List Bytes} {isLast : Bool} {result : Answer Unit × Response}
    (h : PartsSent r parts isLast result) : Advances r result.2 := by
  cases h with
  | ended terminal => exact .refl r
  | uncut live uncut => exact .refl r
  | @sent frames s live cut d =>
    have sent := (Advances.begun r live).trans (.of_delivers d)
    cases isLast with
    | true => exact .of_live sent.id sent.config live r.state.rank_le sent.grown
    | false => exact sent
  | @broken front back f s live cut d blocked =>
    exact ((Advances.begun r live).trans (.of_delivers d)).trans (.failTransport s)

theorem advances_errorSent {code : ErrorCode} {message : String}
    {result : Answer Unit × Response} (h : ErrorSent r code message result) :
    Advances r result.2 := by
  cases h with
  | ended terminal => exact .refl r
  | @sent o live isOpen taken =>
    have told : Advances r ({ r.noteSend with state := .error, backlog := [], outlet := o }.tell
        (.errored code message)) := .of_live rfl rfl live r.state.rank_le ⟨_, taken.symm⟩
    exact told.trans (.of_keeps (keeps_finish _))
  | lost live closed =>
    have told : Advances r ({ r.noteSend with state := .error, backlog := [] }.tell
        (.errored code message)) := .of_live rfl rfl live r.state.rank_le List.prefix_rfl
    exact told.trans (.of_keeps (keeps_finish _))

theorem advances_drained {result : Answer Nat × Response} (h : Drained r result) :
    Advances r result.2 := by
  cases h with
  | unmetered free => exact .refl r
  | released d left => exact .of_delivers d
  | @broken front back f t waiting d blocked =>
    have moved : Advances r t := .of_same d.id_eq d.config_eq d.state_eq d.grown
    exact moved.trans (.failTransport t)

theorem step_advances (orderly : r.Orderly) (a : Action) : Advances r (r.step a).2 := by
  cases a with
  | sendParts parts isLast => exact advances_partsSent (partsSent orderly parts isLast)
  | sendError code message => exact advances_errorSent (errorSent r code message)
  | onDrain granted => exact advances_drained (drained r granted)
  | setOk | setCredits | setSpan | finish | closeOutletAfter =>
    exact .of_keeps (keeps_step r trivial)

theorem signals_run (h : Signals r) (actions : List Action) :
    Signals (r.run actions) ∧ Advances r (r.run actions) := by
  induction actions generalizing r with
  | nil => exact ⟨h, .refl r⟩
  | cons a rest ih =>
    obtain ⟨signals, advances⟩ := ih (step_signals h a)
    exact ⟨signals, (step_advances h.orderly a).trans advances⟩

theorem failed_run (state : r.state = .error) (empty : r.backlog = []) (actions : List Action) :
    (r.run actions).backlog = [] ∧ (r.run actions).outlet.sent = r.outlet.sent := by
  induction actions generalizing r with
  | nil => exact ⟨empty, rfl⟩
  | cons a rest ih =>
    obtain ⟨state, empty, sent, -⟩ := failed_step state empty a
    obtain ⟨left, same⟩ := ih state empty
    exact ⟨left, same.trans sent⟩

/-- An error that is sent while the outlet is open is the last that is sent. -/
theorem sendError_last (live : r.state.isTerminal = false) (isOpen : r.outlet.isOpen = true)
    (code : ErrorCode) (message : String) (later : List Action) :
    ((r.step (.sendError code message)).2.run later).outlet.sent =
        r.outlet.sent ++ [r.errorFrame code message] ∧
      ((r.step (.sendError code message)).2.run later).backlog = [] := by
  have sent := errorSent r code message
  show ((r.sendError code message).2.run later).outlet.sent = _ ∧
    ((r.sendError code message).2.run later).backlog = _
  generalize r.sendError code message = result at sent
  cases sent with
  | ended terminal => exact absurd (terminal.symm.trans live) (by simp)
  | lost live closed => exact absurd (isOpen.symm.trans closed) (by simp)
  | @sent o live isOpen taken =>
    have k := keeps_finish ({ r.noteSend with state := .error, backlog := [], outlet := o }.tell
      (.errored code message))
    obtain ⟨left, same⟩ := failed_run k.state k.backlog later
    exact ⟨same.trans (k.sent.trans taken), left⟩

theorem signals_make {id : UInt32} {config : ResponseConfig} (made : make id config = .ok r) :
    Signals r ∧ r.id = id := by
  obtain ⟨valid, rfl⟩ := make_eq_ok_iff.mp made
  have unsent : (fresh id config).stream = [] := rfl
  exact ⟨Or.inl ⟨valid, fun _ => rfl, by simp [unsent], trivial, rfl⟩, rfl⟩

theorem Signals.ids (h : Signals r) : ∀ f ∈ r.outlet.sent, f.id = r.id := by
  intro f hf
  rcases h with c | o
  · exact c.ids f (List.mem_append_left _ hf)
  · obtain ⟨calls, e, sent, -, -, ids, id, -⟩ := o.sent
    rw [sent] at hf
    rcases List.mem_append.mp hf with hf | hf
    · exact ids f hf
    · rw [List.mem_singleton.mp hf, id]

theorem Signals.shape (h : Signals r) : ∃ calls errors, r.outlet.sent = calls ++ errors ∧
    CallRun calls ∧ errors.length ≤ 1 ∧ ∀ e ∈ errors, e.type? = some .errorResponse := by
  rcases h with c | o
  · exact ⟨r.outlet.sent, [], (List.append_nil _).symm, c.run.of_append, by simp, by simp⟩
  · obtain ⟨calls, e, sent, run, -, -, -, type⟩ := o.sent
    exact ⟨calls, [e], sent, run, by simp, by simpa using type⟩

/-- At most the last frame that has been sent ends the response. -/
theorem Signals.ending (h : Signals r) :
    ∃ front tail, r.outlet.sent = front ++ tail ∧ Unended front ∧ tail.length ≤ 1 := by
  rcases h with c | o
  · have alone (unended : Unended r.stream) :
        ∃ front tail, r.outlet.sent = front ++ tail ∧ Unended front ∧ tail.length ≤ 1 :=
      ⟨r.outlet.sent, [], (List.append_nil _).symm, unended.of_append, by simp⟩
    cases state : r.state with
    | initial | started => exact alone (c.unended_of_live (by rw [state]; rfl))
    | error =>
      have phase := c.phase
      rw [state] at phase
      exact alone phase.2
    | done =>
      have phase := c.phase
      rw [state] at phase
      rcases phase with ⟨front, last, split, unended, -⟩ | ⟨-, unended⟩
      · cases waiting : r.backlog with
        | nil =>
          rw [stream, waiting, List.append_nil] at split
          exact ⟨front, [last], split, unended, by simp⟩
        | cons f back =>
          rw [stream, waiting] at split
          obtain ⟨more, rfl⟩ := prefix_of_concat split
          exact ⟨r.outlet.sent, [], (List.append_nil _).symm, unended.of_append, by simp⟩
      · exact alone unended
  · obtain ⟨calls, e, sent, -, unended, -⟩ := o.sent
    exact ⟨calls, [e], sent, unended, by simp⟩

theorem back_eq_nil_of_isTerminal {before tail front back : List Frame} {f : Frame}
    (split : before ++ tail = front ++ f :: back) (unended : Unended before)
    (few : tail.length ≤ 1) (terminal : f.isTerminal = true) : back = [] := by
  have outside : f ∉ before := fun inside => by simp [unended f inside] at terminal
  cases tail with
  | nil =>
    rw [List.append_nil] at split
    exact absurd (by simp [split]) outside
  | cons last rest =>
    have nothing : rest = [] :=
      List.length_eq_zero_iff.mp (Nat.le_zero.mp (Nat.le_of_succ_le_succ few))
    subst nothing
    exact (eq_nil_of_concat split.symm outside).1

/-- What is seen of a response on the wire, whatever is done with it. -/
structure EndsOnce (id : UInt32) (r : Response) : Prop where
  /-- All frames that have been sent carry the id of the response. -/
  ids : ∀ f ∈ r.outlet.sent, f.id = id
  /-- They are a call response with its continuations, and then at most one error response. -/
  shape : ∃ calls errors, r.outlet.sent = calls ++ errors ∧ CallRun calls ∧ errors.length ≤ 1 ∧
    ∀ e ∈ errors, e.type? = some .errorResponse
  /-- Nothing follows a frame that ends the response. -/
  last : ∀ front f back, r.outlet.sent = front ++ f :: back → f.isTerminal = true → back = []
  /-- There is no more than one such frame. -/
  once : r.outlet.sent.countP Frame.isTerminal ≤ 1
  /-- Before the response ends, no such frame has been sent or waits. -/
  pending : r.state.isTerminal = false → ∀ f ∈ r.outlet.sent ++ r.backlog, f.isTerminal = false
  /-- A response that is done has sent the frame that ends it, or the frame waits as the last. -/
  done : r.state = .done → r.outlet.isOpen = true → ∃ front last,
    r.outlet.sent ++ r.backlog = front ++ [last] ∧ last.isTerminal = true ∧
    (last.type? = some .callResponse ∨ last.type? = some .callResponseCont) ∧
    ∀ f ∈ front, f.isTerminal = false
  /-- An error that is sent in time is the last that is sent, whatever is done afterwards. -/
  failed : ∀ code message later, r.state.isTerminal = false → r.outlet.isOpen = true →
    ((r.step (.sendError code message)).2.run later).outlet.sent =
        r.outlet.sent ++ [r.errorFrame code message] ∧
      ((r.step (.sendError code message)).2.run later).backlog = []
  /-- The state moves forward only, and what has been sent stays sent. -/
  onward : ∀ later, Advances r (r.run later)

/-- **A response ends once on the wire,** whatever is done with it and whenever its outlet
closes. -/
theorem run_endsOnce {id : UInt32} {config : ResponseConfig} {start : Response}
    (made : make id config = .ok start) (actions : List Action) :
    EndsOnce id (start.run actions) := by
  obtain ⟨signals, same⟩ := signals_make made
  obtain ⟨h, advances⟩ := signals_run signals actions
  obtain ⟨before, tail, sent, unended, few⟩ := h.ending
  refine ⟨?_, h.shape, ?_, ?_, ?_, ?_, ?_, ?_⟩
  · intro f hf
    rw [h.ids f hf, advances.id, same]
  · intro front f back split
    exact back_eq_nil_of_isTerminal (sent.symm.trans split) unended few
  · rw [sent, List.countP_append, List.countP_eq_zero.mpr fun f hf => by simp [unended f hf],
      Nat.zero_add]
    exact Nat.le_trans List.countP_le_length few
  · intro live
    rcases h with c | o
    · exact c.unended_of_live live
    · rw [o.state] at live
      cases live
  · intro state isOpen
    rcases h with c | o
    · have phase := c.phase
      rw [state] at phase
      rcases phase with ⟨front, last, split, unended, terminal⟩ | ⟨⟨closed, -⟩, -⟩
      · have run := c.run
        exact ⟨front, last, split, terminal, run.type?_of_mem (by simp [split]), unended⟩
      · exact absurd (isOpen.symm.trans closed) (by simp)
    · rw [o.state] at state
      cases state
  · intro code message later live isOpen
    exact sendError_last live isOpen code message later
  · exact fun later => (signals_run h later).2

/-- The outlet closes while the frame that ends the response still waits for credit. -/
theorem run_endsOnce_of_closing : ∃ start, make 7 ⟨64, .empty, some 1⟩ = .ok start ∧
    EndsOnce 7 (start.run [.setOk false, .sendParts [[], [1, 2]] false, .sendParts [[3]] true,
      .closeOutletAfter 0, .onDrain 5, .sendError .busy "late"]) :=
  ⟨_, rfl, run_endsOnce (show make 7 ⟨64, .empty, some 1⟩ = .ok _ from rfl) _⟩

end Response
end CallWire
