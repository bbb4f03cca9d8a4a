import CallWire.Proofs.Response.Delivery
import CallWire.Proofs.Streaming.Scripts

/-!
# What a call comes to

A call on a streaming response hands what its argument stream reports to the response. Its errors
are told first, then its batch is sent, and the end of the arguments comes last. The call answers
with the first failure.

* `act_rejected`, `act_batch`, `act_last`: a call whose actions report errors only, a batch, or the
  last batch.
-/

namespace CallWire

/-- Tells the observer of rejected writes and ends. -/
def Response.tellRejections (r : Response) (errors : List ArgStreamError) : Response :=
  { r with events := r.events ++ errors.map .argError }

namespace StreamingResponse

variable {s : StreamingResponse} {t : ArgStream} {actions : List ArgStream.Action}
  {errors : List ArgStreamError} {chunks : List Bytes}

theorem make_eq_ok_iff {id : UInt32} {config : ResponseConfig} : make id config = .ok s ↔
    config.validate = .ok () ∧ s = ⟨Response.fresh id config, .empty, []⟩ := by
  unfold make
  constructor
  · intro made
    obtain ⟨r, core, made⟩ := bind_eq_ok_iff.mp made
    obtain ⟨valid, rfl⟩ := Response.make_eq_ok_iff.mp core
    cases made
    exact ⟨valid, rfl⟩
  · rintro ⟨valid, rfl⟩
    exact bind_eq_ok_iff.mpr ⟨_, Response.make_eq_ok_iff.mpr ⟨valid, rfl⟩, rfl⟩

/-- The answer to a call with these errors, the first of which counts. -/
def blame : List ArgStreamError → Answer Unit
  | [] => .ok ()
  | e :: _ => .error (.refused (.argStream e))

theorem foldl_argAction (s : StreamingResponse) (actions : List ArgStream.Action) :
    actions.foldl argAction s =
      { s with args := (s.args.run actions).1, queue := s.queue ++ (s.args.run actions).2 } := by
  induction actions generalizing s with
  | nil => simp [ArgStream.run]
  | cons a rest ih => simp [ih, argAction, ArgStream.run]

/-- Once a call has failed, what follows does not change its answer. -/
theorem handleAll_rejections_failed (r : Response) (fault : Fault ResponseError)
    (errors : List ArgStreamError) (rest : List ArgEvent) :
    handleAll r (.error fault) (errors.map .error ++ rest) =
      handleAll (r.tellRejections errors) (.error fault) rest := by
  induction errors generalizing r with
  | nil => simp [Response.tellRejections]
  | cons e errors ih =>
    show handleAll (r.tell (.argError e)) (.error fault) (errors.map .error ++ rest) = _
    rw [ih]
    simp [Response.tellRejections, Response.tell]

theorem handleAll_rejections (r : Response) (errors : List ArgStreamError)
    (rest : List ArgEvent) :
    handleAll r (.ok ()) (errors.map .error ++ rest) =
      handleAll (r.tellRejections errors) (blame errors) rest := by
  cases errors with
  | nil => simp [Response.tellRejections, blame]
  | cons e errors =>
    show handleAll (r.tell (.argError e)) (.error (.refused (.argStream e)))
      (errors.map .error ++ rest) = _
    rw [handleAll_rejections_failed]
    simp [Response.tellRejections, Response.tell, blame]

theorem handleAll_last (r : Response) (answer : Answer Unit) (chunks : List Bytes) :
    handleAll r answer [.parts chunks true, .finish] =
      (answer >>= fun _ => (r.sendParts chunks true).1, (r.sendParts chunks true).2.finish) := by
  cases answer with
  | error fault => rfl
  | ok _ =>
    simp only [handleAll, handle]
    cases (r.sendParts chunks true).1 with
    | error fault => rfl
    | ok _ => rfl

theorem act_eq (queue : s.queue = []) {events : List ArgEvent}
    (ran : s.args.run actions = (t, events)) :
    s.act actions = ((handleAll s.core (.ok ()) events).1,
      settle ⟨(handleAll s.core (.ok ()) events).2, t, []⟩) := by
  rw [act, foldl_argAction, pump, ran, queue]
  rfl

theorem act_rejected (queue : s.queue = [])
    (ran : s.args.run actions = (t, errors.map .error)) :
    s.act actions = (blame errors, settle ⟨s.core.tellRejections errors, t, []⟩) := by
  rw [act_eq queue ran, ← List.append_nil (errors.map _), handleAll_rejections]
  rfl

theorem act_batch (queue : s.queue = []) (ran : s.args.run actions = (t, [.parts chunks false])) :
    s.act actions =
      ((s.core.sendParts chunks false).1, settle ⟨(s.core.sendParts chunks false).2, t, []⟩) := by
  rw [act_eq queue ran]
  rfl

theorem act_last (queue : s.queue = [])
    (ran : s.args.run actions = (t, errors.map .error ++ [.parts chunks true, .finish])) :
    s.act actions =
      (blame errors >>= fun _ => ((s.core.tellRejections errors).sendParts chunks true).1,
        settle ⟨((s.core.tellRejections errors).sendParts chunks true).2.finish, t, []⟩) := by
  rw [act_eq queue ran, handleAll_rejections, handleAll_last]

/-- The response with the status that a call is to be answered with. -/
def withStatus (s : StreamingResponse) (ok : Bool) : StreamingResponse :=
  { s with core := { s.core with code := if ok then CallResponse.ok else CallResponse.notOk } }

/-- Before the first frame, a status is set and the first argument ends. -/
theorem setOk_of_initial (initial : s.core.state = .initial) (ok : Bool) :
    s.setOk ok = (s.withStatus ok).act [.endArg .arg1, .flush] := by
  simp only [setOk, Response.setOk, if_pos initial]
  rfl

theorem setOk_of_begun (begun : s.core.state ≠ .initial) (ok : Bool) :
    s.setOk ok = (.error (.refused (.alreadyStarted s.core.state)), s) := by
  simp only [setOk, Response.setOk, if_neg begun]

theorem live_of_initial (initial : s.core.state = .initial) : s.core.state.isTerminal = false := by
  rw [initial]
  rfl

end StreamingResponse

end CallWire
