import CallWire.Proofs.Response.Ending
import CallWire.Proofs.Response.Events
import CallWire.Proofs.Streaming.Calls

/-!
# What holds between two calls

Whatever is called on a streaming response, nothing that its argument stream has reported waits
afterwards, its arguments are over once it has ended, and its observer is informed (`Settled`).

* `Continues`: what a call that sends no error keeps and tells (`step_continues`);
* `sendError_settled`: a call that sends an error in time;
* `run_settled`: any calls in any order.
-/

namespace CallWire

/-- An operation succeeds or is refused. -/
def NoBreach {α : Type} (answer : Answer α) : Prop := ∀ b, answer ≠ .error (.breach b)

theorem noBreach_ok {α : Type} (a : α) : NoBreach (.ok a) := fun b h => by cases h

theorem noBreach_refused {α : Type} (e : ResponseError) : NoBreach (α := α) (.error (.refused e)) :=
  fun b h => by cases h

namespace Response

variable {r : Response}

theorem noBreach_partsSent {parts : List Bytes} {isLast : Bool} {result : Answer Unit × Response}
    (valid : r.config.validate = .ok ()) (h : PartsSent r parts isLast result) :
    NoBreach result.1 := by
  cases h with
  | ended terminal => exact noBreach_refused _
  | uncut live uncut =>
    obtain ⟨e, rfl⟩ := refused_of_fragment valid uncut
    exact noBreach_refused _
  | sent live cut d => exact noBreach_ok ()
  | broken live cut d blocked => exact noBreach_refused _

theorem noBreach_errorSent {code : ErrorCode} {message : String} {result : Answer Unit × Response}
    (h : ErrorSent r code message result) : NoBreach result.1 := by
  cases h with
  | ended terminal => exact noBreach_refused _
  | sent live isOpen taken => exact noBreach_ok ()
  | lost live closed => exact noBreach_refused _

theorem noBreach_drained {result : Answer Nat × Response} (h : Drained r result) :
    NoBreach result.1 := by
  cases h with
  | unmetered free => exact noBreach_ok 0
  | @released total s d left => exact noBreach_ok total
  | broken waiting d blocked => exact noBreach_refused _

end Response

namespace StreamingResponse

open Response

variable {s t : StreamingResponse} {u : ArgStream}

/-- What holds between two calls. -/
structure Settled (s : StreamingResponse) : Prop where
  valid : s.core.config.validate = .ok ()
  orderly : s.core.Orderly
  queue : s.queue = []
  resting : s.args.Resting
  informed : s.core.Informed
  spent : s.core.state.isTerminal = true → s.args = .spent

/-- The arguments are over only if the response has ended. -/
def Complete (s : StreamingResponse) : Prop :=
  s.args = .spent → s.core.state.isTerminal = true

/-- What a call that sends no error keeps and tells. -/
structure Continues (s t : StreamingResponse) : Prop where
  settled : t.Settled
  config : t.core.config = s.core.config
  tells : TellsOn s.core t.core
  complete : s.core.config.Roomy → s.Complete → t.Complete

theorem settle_core (s : StreamingResponse) : s.settle.core = s.core := by
  unfold settle
  split
  · rfl
  · rfl

/-- A call leaves its arguments over if the response has failed, and else as they are. -/
theorem settled_settle {r : Response} (valid : r.config.validate = .ok ()) (orderly : r.Orderly)
    (resting : u.Resting) (informed : r.Informed)
    (spent : r.state.isTerminal = true → r.state = .error ∨ u = .spent) :
    Settled (settle ⟨r, u, []⟩) := by
  unfold settle
  split
  · exact ⟨valid, orderly, rfl, Or.inr (ArgStream.finishAll_of_resting resting), informed,
      fun _ => ArgStream.finishAll_of_resting resting⟩
  · rename_i sound
    exact ⟨valid, orderly, rfl, resting, informed,
      fun terminal => (spent terminal).resolve_left sound⟩

theorem complete_settle {r : Response} (spent : u = .spent → r.state.isTerminal = true) :
    Complete (settle ⟨r, u, []⟩) := by
  unfold settle
  split
  · rename_i failed
    intro _
    show r.state.isTerminal = true
    rw [show r.state = .error from failed]
    rfl
  · exact spent

theorem idle_ne_spent (n : Nat) : ArgStream.idle n ≠ .spent := by
  intro same
  cases congrArg ArgStream.finished same

theorem noBreach_blame (errors : List ArgStreamError) : NoBreach (blame errors) := by
  cases errors with
  | nil => exact noBreach_ok ()
  | cons e errors => exact noBreach_refused _

theorem quiet_tellRejections {r : Response} (quiet : r.Quiet) (errors : List ArgStreamError) :
    (r.tellRejections errors).Quiet ∧ TellsOn r (r.tellRejections errors) := by
  refine ⟨⟨quiet.finished, ?_⟩, errors.map .argError, rfl, by simp⟩
  intro e he
  rcases List.mem_append.mp he with he | he
  · exact quiet.events e he
  · obtain ⟨x, -, rfl⟩ := List.mem_map.mp he
    exact ⟨x, rfl⟩

theorem Settled.quiet (h : s.Settled) (live : s.core.state.isTerminal = false) : s.core.Quiet := by
  rcases h.informed with ⟨-, quiet⟩ | told
  · exact quiet
  · exact absurd (told.ended.symm.trans live) (by simp)

/-- What a call with errors only comes to. -/
theorem continues_rejected (h : s.Settled) (live : s.core.state.isTerminal = false)
    (quiet : s.core.Quiet) (errors : List ArgStreamError) :
    Continues s (settle ⟨s.core.tellRejections errors, s.args, []⟩) := by
  obtain ⟨told, tells⟩ := quiet_tellRejections quiet errors
  have same : (s.core.tellRejections errors).state.isTerminal = false := live
  refine ⟨?_, ?_, ?_, ?_⟩
  · exact settled_settle h.valid h.orderly h.resting (Or.inl ⟨live, told⟩)
      fun terminal => absurd (terminal.symm.trans same) (by simp)
  · rw [settle_core]
    rfl
  · rw [settle_core]
    exact tells
  · intro _ complete
    exact complete_settle complete

/-- What a call with a batch that is not the last comes to. -/
theorem continues_batch {n : Nat} {chunks : List Bytes} {result : Answer Unit × Response}
    (h : s.Settled) (live : s.core.state.isTerminal = false) (quiet : s.core.Quiet) (few : n < 3)
    (sent : PartsSent s.core chunks false result) :
    Continues s (settle ⟨result.2, .idle n, []⟩) := by
  have config : result.2.config = s.core.config := (advances_partsSent sent).config
  obtain ⟨tells, known⟩ := quiet_partsSent live quiet sent
  refine ⟨?_, ?_, ?_, ?_⟩
  · refine settled_settle (config ▸ h.valid) (orderly_partsSent h.orderly sent)
      (Or.inl ⟨n, few, rfl⟩) ?_ fun terminal => ?_
    · rcases known with ⟨told, -⟩ | ⟨told, onward⟩
      · exact Or.inr told
      · exact Or.inl ⟨onward rfl, told⟩
    · rcases known with ⟨-, failed⟩ | ⟨-, onward⟩
      · exact Or.inl failed
      · exact absurd (terminal.symm.trans (onward rfl)) (by simp)
  · rw [settle_core, config]
  · rw [settle_core]
    exact tells
  · intro _ _
    exact complete_settle fun spent => absurd spent (idle_ne_spent n)

/-- What a call with the last batch comes to. -/
theorem continues_last {chunks : List Bytes} {errors : List ArgStreamError}
    {result : Answer Unit × Response} (h : s.Settled) (live : s.core.state.isTerminal = false)
    (quiet : s.core.Quiet)
    (sent : PartsSent (s.core.tellRejections errors) chunks true result) :
    Continues s (settle ⟨result.2.finish, .spent, []⟩) := by
  obtain ⟨quieter, first⟩ := quiet_tellRejections quiet errors
  have k := keeps_finish result.2
  have config : result.2.finish.config = s.core.config :=
    k.config.trans (advances_partsSent sent).config
  have orderly : result.2.Orderly :=
    orderly_partsSent (r := s.core.tellRejections errors) h.orderly sent
  obtain ⟨tells, known⟩ := quiet_partsSent (r := s.core.tellRejections errors) live quieter sent
  refine ⟨?_, ?_, ?_, ?_⟩
  · refine settled_settle (config ▸ h.valid) (k.orderly orderly) (Or.inr rfl) ?_ fun _ => Or.inr rfl
    cases ended : result.2.state.isTerminal with
    | true =>
      refine Or.inr (told_finish ended ?_)
      rcases known with ⟨told, -⟩ | ⟨told, -⟩
      · exact Or.inr told
      · exact Or.inl told
    | false =>
      rw [finish_of_live ended]
      rcases known with ⟨told, -⟩ | ⟨told, -⟩
      · exact Or.inr told
      · exact Or.inl ⟨ended, told⟩
  · rw [settle_core, config]
  · rw [settle_core]
    exact first.trans (TellsOn.trans tells (tellsOn_finish _))
  · intro roomy _
    refine complete_settle fun _ => ?_
    show result.2.finish.state.isTerminal = true
    rw [k.state]
    cases sent with
    | ended terminal => exact terminal
    | uncut live uncut =>
      obtain ⟨frames, cut⟩ :=
        fragment_ok_of_roomy (r := s.core.tellRejections errors) h.valid roomy chunks true _
      rw [cut] at uncut
      cases uncut
    | sent live cut d => rfl
    | @broken front back f r live cut d blocked =>
      exact isTerminal_failTransport r

/-- A call whose actions are performed on the arguments of a live response. -/
theorem act_continues {actions : List ArgStream.Action} (h : s.Settled)
    (live : s.core.state.isTerminal = false) (script : ArgStream.Script actions) :
    Continues s (s.act actions).2 ∧ NoBreach (s.act actions).1 := by
  have quiet := h.quiet live
  have reported := ArgStream.reported h.resting script
  generalize ran : s.args.run actions = result at reported
  cases reported with
  | rejected errors =>
    rw [act_rejected h.queue ran]
    exact ⟨continues_rejected h live quiet errors, noBreach_blame errors⟩
  | batch few running chunks =>
    rw [act_batch h.queue ran]
    have sent := partsSent h.orderly chunks false
    exact ⟨continues_batch h live quiet few sent, noBreach_partsSent h.valid sent⟩
  | last running errors chunks =>
    rw [act_last h.queue ran]
    have sent := partsSent (r := s.core.tellRejections errors) h.orderly chunks true
    refine ⟨continues_last h live quiet sent, ?_⟩
    cases errors with
    | nil => exact noBreach_partsSent (r := s.core.tellRejections []) h.valid sent
    | cons e errors => exact noBreach_refused _

theorem Continues.refl (h : s.Settled) : Continues s s :=
  ⟨h, rfl, .of_same rfl, fun _ complete => complete⟩

theorem Continues.trans {v : StreamingResponse} (first : Continues s t) (second : Continues t v) :
    Continues s v where
  settled := second.settled
  config := second.config.trans first.config
  tells := first.tells.trans second.tells
  complete roomy complete :=
    second.complete (first.config ▸ roomy) (first.complete roomy complete)

/-- What changes neither the life of the response nor its arguments. -/
theorem continues_core {r : Response} (h : s.Settled) (config : r.config = s.core.config)
    (orderly : r.Orderly) (state : r.state = s.core.state)
    (finished : r.finished = s.core.finished) (events : r.events = s.core.events) :
    Continues s { s with core := r } where
  settled := ⟨config ▸ h.valid, orderly, h.queue, h.resting,
    h.informed.of_same state finished events, fun terminal => h.spent (state ▸ terminal)⟩
  config := config
  tells := .of_same events
  complete _ complete spent := state ▸ complete spent

theorem drained_state {r : Response} {result : Answer Nat × Response} (h : Drained r result) :
    result.2.state = r.state ∨ result.2.state = .error := by
  cases h with
  | unmetered free => exact Or.inl rfl
  | released d left => exact Or.inl d.state_eq
  | @broken front back f t waiting d blocked =>
    have state : t.state = r.state := d.state_eq
    show t.failTransport.state = r.state ∨ t.failTransport.state = .error
    rw [state_failTransport, ← state]
    split
    · exact Or.inl rfl
    · exact Or.inr rfl

theorem onDrain_continues (h : s.Settled) (granted : UInt32) :
    Continues s (s.onDrain granted).2 ∧ NoBreach (s.onDrain granted).1 := by
  have drained := drained s.core granted
  unfold onDrain
  generalize s.core.onDrain granted = result at drained
  refine ⟨?_, noBreach_drained drained⟩
  have config := (advances_drained drained).config
  obtain ⟨informed, tells⟩ := informed_drained h.informed drained
  have same : { s with core := result.2 } = StreamingResponse.mk result.2 s.args [] := by
    rw [h.queue]
  show Continues s (settle { s with core := result.2 })
  rw [same]
  refine ⟨?_, ?_, ?_, ?_⟩
  · refine settled_settle (config ▸ h.valid) (orderly_drained h.orderly drained) h.resting informed
      fun terminal => ?_
    rcases drained_state drained with same | failed
    · exact Or.inr (h.spent (same ▸ terminal))
    · exact Or.inl failed
  · rw [settle_core, config]
  · rw [settle_core]
    exact tells
  · refine fun _ complete => complete_settle fun spent => ?_
    rcases drained_state drained with same | failed
    · rw [same]
      exact complete spent
    · rw [failed]
      rfl

theorem actIfOpen_continues {attempted : String} {actions : List ArgStream.Action} (h : s.Settled)
    (script : ArgStream.Script actions) :
    Continues s (s.actIfOpen attempted actions).2 ∧ NoBreach (s.actIfOpen attempted actions).1 := by
  unfold actIfOpen ensureOpen
  cases terminal : s.core.state.isTerminal with
  | true => exact ⟨.refl h, noBreach_refused _⟩
  | false => exact act_continues h terminal script

theorem continues_withStatus (h : s.Settled) (ok : Bool) : Continues s (s.withStatus ok) :=
  continues_core h rfl h.orderly rfl rfl rfl

theorem setOk_continues (h : s.Settled) (ok : Bool) :
    Continues s (s.setOk ok).2 ∧ NoBreach (s.setOk ok).1 := by
  by_cases initial : s.core.state = .initial
  · rw [setOk_of_initial initial]
    have first := continues_withStatus h ok
    obtain ⟨second, answer⟩ := act_continues first.settled (live_of_initial initial) (.endArg .arg1)
    exact ⟨first.trans second, answer⟩
  · rw [setOk_of_begun initial]
    exact ⟨.refl h, noBreach_refused _⟩

/-- An error that is sent in time ends the response and is told. -/
theorem sendError_settled (h : s.Settled) (live : s.core.state.isTerminal = false)
    (code : ErrorCode) (message : String) :
    (s.sendError code message).2.Settled ∧ (s.sendError code message).2.Complete ∧
      (s.sendError code message).2.core.config = s.core.config ∧
      (s.sendError code message).2.core.events =
        s.core.events ++ [.errored code message, .finished] ∧
      NoBreach (s.sendError code message).1 := by
  have quiet := h.quiet live
  have sent := errorSent s.core code message
  have performed : s.sendError code message = ((s.core.sendError code message).1,
      ⟨(s.core.sendError code message).2, .spent, []⟩) := by
    simp [sendError, ensureOpen, live, h.queue, ArgStream.finishAll_of_resting h.resting]
  rw [performed]
  generalize s.core.sendError code message = result at sent
  obtain ⟨told, events⟩ := told_errorSent live quiet sent
  have config := (advances_errorSent sent).config
  exact ⟨⟨config ▸ h.valid, orderly_errorSent h.orderly sent, rfl, Or.inr rfl, Or.inr told,
    fun _ => rfl⟩, fun _ => told.ended, config, events, noBreach_errorSent sent⟩

/-- A call other than one that sends an error in time. -/
theorem step_continues (h : s.Settled) {a : Action}
    (other : ∀ code message, a = .sendError code message → s.core.state.isTerminal = true) :
    Continues s (s.step a).2 ∧ NoBreach (s.step a).1 := by
  cases a with
  | setOk ok => exact setOk_continues h ok
  | write arg chunk =>
    show Continues s (s.write arg chunk).2 ∧ NoBreach (s.write arg chunk).1
    unfold write
    split
    · exact ⟨.refl h, noBreach_refused _⟩
    · exact actIfOpen_continues h (.write arg chunk)
  | endArg arg =>
    show Continues s (s.endArg arg).2 ∧ NoBreach (s.endArg arg).1
    unfold endArg
    split
    · exact ⟨.refl h, noBreach_refused _⟩
    · exact actIfOpen_continues h (.endArg arg)
  | send arg2 arg3 => exact actIfOpen_continues h (.send arg2 arg3)
  | sendError code message =>
    have terminal := other code message rfl
    have kept : s.step (.sendError code message) = (.error (.refused (.alreadyDone
        (errorAttempt code message))), s) := by
      simp [step, sendError, ensureOpen, terminal]
    rw [kept]
    exact ⟨.refl h, noBreach_refused _⟩
  | onDrain granted =>
    obtain ⟨continues, answer⟩ := onDrain_continues h granted
    refine ⟨continues, ?_⟩
    intro b failed
    have mapped : (s.onDrain granted).1.map (fun _ => ()) = .error (.breach b) := failed
    cases result : (s.onDrain granted).1 with
    | ok total =>
      rw [result] at mapped
      cases mapped
    | error fault =>
      rw [result] at mapped
      cases mapped
      exact answer b result
  | setSpan span => exact ⟨continues_core h rfl h.orderly rfl rfl rfl, noBreach_ok ()⟩
  | closeOutletAfter n => exact ⟨continues_core h rfl h.orderly rfl rfl rfl, noBreach_ok ()⟩
  | shareCredits c =>
    exact ⟨continues_core h rfl (fun unmetered => by cases unmetered) rfl rfl rfl, noBreach_ok ()⟩

/-- What every call keeps, an error in time included. -/
theorem step_settled (h : s.Settled) (a : Action) :
    (s.step a).2.Settled ∧ (s.step a).2.core.config = s.core.config ∧ NoBreach (s.step a).1 ∧
      (s.core.config.Roomy → s.Complete → (s.step a).2.Complete) := by
  by_cases failing : ∃ code message, a = .sendError code message ∧ s.core.state.isTerminal = false
  · obtain ⟨code, message, rfl, live⟩ := failing
    obtain ⟨settled, complete, config, -, answer⟩ := sendError_settled h live code message
    exact ⟨settled, config, answer, fun _ _ => complete⟩
  · have other : ∀ code message, a = .sendError code message → s.core.state.isTerminal = true := by
      intro code message same
      by_cases terminal : s.core.state.isTerminal = true
      · exact terminal
      · exact absurd ⟨code, message, same, by simpa using terminal⟩ failing
    obtain ⟨continues, answer⟩ := step_continues h other
    exact ⟨continues.settled, continues.config, answer, continues.complete⟩

theorem run_settled (h : s.Settled) (actions : List Action) :
    (s.run actions).Settled ∧ (s.run actions).core.config = s.core.config ∧
      (s.core.config.Roomy → s.Complete → (s.run actions).Complete) := by
  induction actions generalizing s with
  | nil => exact ⟨h, rfl, fun _ complete => complete⟩
  | cons a rest ih =>
    obtain ⟨settled, config, -, complete⟩ := step_settled h a
    obtain ⟨last, same, whole⟩ := ih settled
    refine ⟨last, same.trans config, ?_⟩
    intro roomy start
    exact whole (config ▸ roomy) (complete roomy start)

theorem settled_make {id : UInt32} {config : ResponseConfig} (made : make id config = .ok s) :
    s.Settled ∧ s.core.config = config ∧ s.Complete := by
  obtain ⟨valid, rfl⟩ := make_eq_ok_iff.mp made
  refine ⟨⟨valid, fun _ => rfl, rfl, Or.inl ⟨0, by decide, rfl⟩, Or.inl ⟨rfl, rfl, ?_⟩, ?_⟩,
    rfl, ?_⟩
  · intro e he
    cases he
  · intro terminal
    cases terminal
  · intro spent
    exact absurd spent (idle_ne_spent 0)

end StreamingResponse

end CallWire
