import CallWire.Proofs.Response.Carrying
import CallWire.Proofs.Streaming.Calls
import CallWire.Proofs.Streaming.Content

/-!
# The frames carry what was accepted

As long as the outlet is open and no error is sent, the frames of a streaming response carry the
arguments that its history tells of (`Intact`). A call adds one batch, which holds just what it got
accepted, or changes nothing about the frames.

* `running_act_rejected`, `running_act_batch`, `running_act_last`: calls on the argument stream;
* `step_intact`, `run_intact`: any call, and any calls in any order.
-/

namespace CallWire.StreamingResponse

open Response

/-- A call that neither sends an error nor lets the outlet close. -/
def Ordinary : Action → Prop
  | .sendError _ _ | .closeOutletAfter _ => False
  | _ => True

variable {s t : StreamingResponse} {log : List (Action × Answer Unit)} {n : Nat} {a : Action}

/-- The response goes on, `n` of its arguments have ended, and its frames carry those opened. -/
structure Running (n : Nat) (log : List (Action × Answer Unit)) (s : StreamingResponse) : Prop where
  carrying : s.core.Carrying (arguments log)
  queue : s.queue = []
  few : n < 3
  args : s.args = .idle n
  opened : Opened log (n + 1)
  state : s.core.state = if n = 0 then .initial else .started

/-- The response is complete, and its frames carry all arguments. -/
structure Ended (log : List (Action × Answer Unit)) (s : StreamingResponse) : Prop where
  carrying : s.core.Carrying (arguments log)
  queue : s.queue = []
  args : s.args = .spent
  opened : Opened log 3
  state : s.core.state = .done

/-- The frames carry what was accepted. -/
def Intact (log : List (Action × Answer Unit)) (s : StreamingResponse) : Prop :=
  (∃ n, Running n log s) ∨ Ended log s

theorem settle_of_sound {r : Response} (sound : r.state ≠ .error) (u : ArgStream)
    (queue : List ArgEvent) : settle ⟨r, u, queue⟩ = ⟨r, u, queue⟩ := if_neg sound

theorem Running.live (h : Running n log s) : s.core.state.isTerminal = false := by
  rw [h.state]
  split
  · rfl
  · rfl

theorem Running.sound (h : Running n log s) : s.core.state ≠ .error := by
  intro failed
  have live := h.live
  rw [failed] at live
  cases live

/-- A call that gets nothing accepted leaves a response running. -/
theorem Running.idle (h : Running n log s) {answer : Answer Unit} (idle : Idle (a, answer))
    {r : Response} (carrying : r.Carrying (arguments log)) (state : r.state = s.core.state) :
    Running n (log ++ [(a, answer)]) ⟨r, s.args, []⟩ := by
  have begun : 1 ≤ n + 1 := Nat.le_add_left 1 n
  have same : arguments (log ++ [(a, answer)]) = arguments log :=
    idle.arguments_eq (h.opened.count ▸ begun)
  exact ⟨same ▸ carrying, rfl, h.few, h.args, idle.opened begun h.opened, state.trans h.state⟩

/-- A call that gets nothing accepted leaves a complete response as it is. -/
theorem Ended.idle (h : Ended log s) {answer : Answer Unit} (idle : Idle (a, answer))
    {r : Response} (carrying : r.Carrying (arguments log)) (state : r.state = s.core.state) :
    Ended (log ++ [(a, answer)]) ⟨r, s.args, []⟩ := by
  have same : arguments (log ++ [(a, answer)]) = arguments log :=
    idle.arguments_eq (h.opened.count ▸ by decide)
  exact ⟨same ▸ carrying, rfl, h.args, idle.opened (by decide) h.opened, state.trans h.state⟩

theorem Intact.queue (h : Intact log s) : s.queue = [] := by
  rcases h with ⟨n, h⟩ | h
  · exact h.queue
  · exact h.queue

theorem Intact.carrying (h : Intact log s) : s.core.Carrying (arguments log) := by
  rcases h with ⟨n, h⟩ | h
  · exact h.carrying
  · exact h.carrying

theorem Intact.sound (h : Intact log s) : s.core.state ≠ .error := by
  rcases h with ⟨n, h⟩ | h
  · exact h.sound
  · rw [h.state]
    decide

/-- A call that gets nothing accepted, and leaves the frames and the life of the response. -/
theorem Intact.idle (h : Intact log s) {answer : Answer Unit} (idle : Idle (a, answer))
    {r : Response} (carrying : r.Carrying (arguments log)) (state : r.state = s.core.state) :
    Intact (log ++ [(a, answer)]) { s with core := r } := by
  have emptied : { s with core := r } = ⟨r, s.args, []⟩ := by rw [h.queue]
  rw [emptied]
  rcases h with ⟨n, h⟩ | h
  · exact Or.inl ⟨n, h.idle idle carrying state⟩
  · exact Or.inr (h.idle idle carrying state)

theorem Intact.same (h : Intact log s) {answer : Answer Unit} (idle : Idle (a, answer)) :
    Intact (log ++ [(a, answer)]) s := h.idle idle h.carrying rfl

theorem carrying_tellRejections {r : Response} {args : List Bytes} (h : r.Carrying args)
    (errors : List ArgStreamError) : (r.tellRejections errors).Carrying args :=
  h.of_same rfl h.orderly rfl rfl

/-- Rejected writes and ends change nothing about the frames. -/
theorem running_act_rejected (errors : List ArgStreamError) (h : Running n log s)
    {actions : List ArgStream.Action}
    (ran : (ArgStream.idle n).run actions = (.idle n, errors.map .error))
    (idle : Idle (a, blame errors)) :
    Running n (log ++ [(a, (s.act actions).1)]) (s.act actions).2 := by
  rw [← h.args] at ran
  have sound : (s.core.tellRejections errors).state ≠ .error := h.sound
  rw [act_rejected h.queue ran, settle_of_sound sound]
  exact h.idle idle (carrying_tellRejections h.carrying errors) rfl

/-- A batch carries what the call got accepted. -/
theorem running_act_batch (h : Running n log s) {actions : List ArgStream.Action}
    {chunks : List Bytes} {k : Nat}
    (ran : (ArgStream.idle n).run actions = (.idle k, [.parts chunks false]))
    (adds : Adds n (k + 1) chunks (a, .ok ())) (begun : k ≠ 0) :
    Running k (log ++ [(a, (s.act actions).1)]) (s.act actions).2 := by
  obtain ⟨r, sent, carrying, state⟩ := h.carrying.sendParts h.live adds.filled adds.few false
  obtain ⟨carried, opened⟩ := adds.carried h.opened
  rw [← h.args] at ran
  have sound : r.state ≠ .error := by
    rw [state]
    decide
  rw [act_batch h.queue ran, sent, settle_of_sound sound]
  exact ⟨carried ▸ carrying, rfl, adds.most, rfl, opened, state.trans (if_neg begun).symm⟩

/-- So does the last batch, even if the call is rejected for other reasons. -/
theorem running_act_last (errors : List ArgStreamError) (h : Running n log s)
    {actions : List ArgStream.Action} {chunks : List Bytes}
    (ran : (ArgStream.idle n).run actions =
      (.spent, errors.map .error ++ [.parts chunks true, .finish]))
    (adds : Adds n 3 chunks (a, blame errors)) :
    Ended (log ++ [(a, (s.act actions).1)]) (s.act actions).2 := by
  obtain ⟨r, sent, carrying, state⟩ :=
    (carrying_tellRejections h.carrying errors).sendParts h.live adds.filled adds.few true
  obtain ⟨carried, opened⟩ := adds.carried h.opened
  rw [← h.args] at ran
  have done : r.finish.state = .done := (keeps_finish r).state.trans state
  have sound : r.finish.state ≠ .error := by
    rw [done]
    decide
  have answer : (blame errors >>= fun _ => .ok ()) = blame errors := by
    cases errors with
    | nil => rfl
    | cons e errors => rfl
  rw [act_last h.queue ran, sent, settle_of_sound sound, answer]
  exact ⟨carried ▸ carrying.finish, rfl, rfl, opened, done⟩

theorem Running.begins (h : Running n log s) : s.core.state = .initial ↔ n = 0 := by
  rw [h.state]
  constructor
  · intro initial
    by_cases zero : n = 0
    · exact zero
    · rw [if_neg zero] at initial
      cases initial
  · exact fun zero => if_pos zero

theorem setOk_intact (h : Intact log s) (ok : Bool) :
    Intact (log ++ [(.setOk ok, (s.setOk ok).1)]) (s.setOk ok).2 := by
  by_cases initial : s.core.state = .initial
  · rcases h with ⟨n, h⟩ | h
    · obtain rfl := h.begins.mp initial
      have coded : Running 0 log (s.withStatus ok) :=
        ⟨h.carrying.of_same rfl h.carrying.orderly rfl rfl, h.queue, h.few, h.args, h.opened,
          h.state⟩
      have ran := ArgStream.run_endArg (Nat.le_refl ArgIndex.arg1.position) (by decide)
      have adds : Adds 0 2 ([[]] ++ List.replicate (2 - 1 - 0) []) (.setOk ok, .ok ()) :=
        adds_ends (fun _ => rfl) rfl (by decide) (by decide)
      rw [setOk_of_initial initial]
      exact Or.inl ⟨1, running_act_batch coded ran adds (by decide)⟩
    · rw [h.state] at initial
      cases initial
  · rw [setOk_of_begun initial]
    exact h.same ⟨rfl, rfl, rfl⟩

/-- A call on the arguments is rejected once the response is complete, and then changes nothing. -/
theorem actIfOpen_intact {attempted : String} {actions : List ArgStream.Action}
    (h : Intact log s) (idle : ∀ e, Idle (a, .error (.refused (.alreadyDone e))))
    (acts : ∀ n, Running n log s →
      Intact (log ++ [(a, (s.act actions).1)]) (s.act actions).2) :
    Intact (log ++ [(a, (s.actIfOpen attempted actions).1)]) (s.actIfOpen attempted actions).2 := by
  unfold actIfOpen ensureOpen
  rcases id h with ⟨n, running⟩ | ended
  · rw [if_neg (by rw [running.live]; decide)]
    exact acts n running
  · rw [if_pos (by rw [ended.state]; rfl)]
    exact h.same (idle attempted)

theorem write_intact (h : Intact log s) (arg : ArgIndex) (chunk : Bytes) :
    Intact (log ++ [(.write arg chunk, (s.write arg chunk).1)]) (s.write arg chunk).2 := by
  unfold write
  split
  · exact h.same ⟨rfl, rfl, rfl⟩
  · rename_i later
    refine actIfOpen_intact h (fun _ => ⟨rfl, rfl, rfl⟩) ?_
    intro n h
    by_cases late : arg.position < n
    · have ran := ArgStream.run_write_late late chunk
      exact Or.inl ⟨n, running_act_rejected [.writeAfterEnd arg] h ran ⟨rfl, rfl, rfl⟩⟩
    · have next := Nat.not_lt.mp late
      have ran := ArgStream.run_write next chunk
      refine Or.inl ⟨arg.position, running_act_batch h ran (adds_write later next chunk) ?_⟩
      cases arg with
      | arg1 => exact absurd rfl later
      | arg2 | arg3 => decide

theorem endArg_intact (h : Intact log s) (arg : ArgIndex) :
    Intact (log ++ [(.endArg arg, (s.endArg arg).1)]) (s.endArg arg).2 := by
  unfold endArg
  split
  · exact h.same ⟨rfl, rfl, rfl⟩
  · rename_i later
    refine actIfOpen_intact h (fun _ => ⟨rfl, rfl, rfl⟩) ?_
    intro n h
    by_cases late : arg.position < n
    · have ran := ArgStream.run_endArg_late late
      exact Or.inl ⟨n, running_act_rejected [.alreadyEnded arg] h ran ⟨rfl, rfl, rfl⟩⟩
    · have next := Nat.not_lt.mp late
      -- whichever of the two ends, all three arguments are open afterwards
      have adds : Adds n 3 ([[]] ++ List.replicate (3 - 1 - n) []) (.endArg arg, .ok ()) := by
        apply adds_ends (fun _ => rfl) ?_ h.few (Nat.le_refl 3)
        cases arg with
        | arg1 => exact absurd rfl later
        | arg2 | arg3 => rfl
      cases arg with
      | arg1 => exact absurd rfl later
      | arg2 =>
        have ran := ArgStream.run_endArg next (by decide)
        exact Or.inl ⟨2, running_act_batch h ran adds (by decide)⟩
      | arg3 =>
        have ran := ArgStream.run_endArg_last next
        exact Or.inr (running_act_last [] h ran adds)

theorem send_intact (h : Intact log s) (arg2 arg3 : Bytes) :
    Intact (log ++ [(.send arg2 arg3, (s.send arg2 arg3).1)]) (s.send arg2 arg3).2 := by
  refine actIfOpen_intact h (fun _ => ⟨rfl, rfl, rfl⟩) ?_
  intro n h
  by_cases next : n ≤ 1
  · have ran := ArgStream.run_send next arg2 arg3
    exact Or.inr (running_act_last [] h ran (adds_send next arg2 arg3))
  · have two : n = 2 := by
      have few := h.few
      omega
    subst two
    -- both actions on the second argument are rejected, those on the third are not
    have ran := ArgStream.run_send_late arg2 arg3
    exact Or.inr (running_act_last [.writeAfterEnd .arg2, .alreadyEnded .arg2] h ran
      (adds_send_late arg2 arg3))

theorem onDrain_intact (h : Intact log s) (granted : UInt32) {answer : Answer Unit} :
    Intact (log ++ [(.onDrain granted, answer)]) (s.onDrain granted).2 := by
  obtain ⟨carrying, state⟩ := h.carrying.onDrain granted
  have sound : (s.core.onDrain granted).2.state ≠ .error := state ▸ h.sound
  have performed : (s.onDrain granted).2 = { s with core := (s.core.onDrain granted).2 } :=
    if_neg sound
  rw [performed]
  exact h.idle ⟨rfl, rfl, rfl⟩ carrying state

/-- **A call keeps the frames in step with what was accepted.** -/
theorem step_intact (h : Intact log s) (ordinary : Ordinary a) :
    Intact (log ++ [(a, (s.step a).1)]) (s.step a).2 := by
  cases a with
  | setOk ok => exact setOk_intact h ok
  | write arg chunk => exact write_intact h arg chunk
  | endArg arg => exact endArg_intact h arg
  | send arg2 arg3 => exact send_intact h arg2 arg3
  | sendError code message => cases ordinary
  | closeOutletAfter n => cases ordinary
  | onDrain granted => exact onDrain_intact h granted
  | setSpan span =>
    have carrying := h.carrying
    exact h.idle ⟨rfl, rfl, rfl⟩ (carrying.of_same rfl carrying.orderly rfl rfl) rfl
  | shareCredits c =>
    have metered : (s.core.setCredits c).Orderly := by
      intro unmetered
      cases unmetered
    exact h.idle ⟨rfl, rfl, rfl⟩ (h.carrying.of_same rfl metered rfl rfl) rfl

theorem run_intact {actions : List Action} (h : Intact log s)
    (ordinary : ∀ a ∈ actions, Ordinary a) :
    Intact (log ++ history s actions) (s.run actions) := by
  induction actions generalizing s log with
  | nil =>
    rw [history, List.append_nil]
    exact h
  | cons a rest ih =>
    have next := step_intact h (ordinary a List.mem_cons_self)
    have last := ih next fun b hb => ordinary b (List.mem_cons_of_mem _ hb)
    rw [List.append_assoc] at last
    exact last

theorem intact_make {id : UInt32} {config : ResponseConfig} (made : make id config = .ok s)
    (distinct : config.headers.keys.Nodup) (roomy : config.Roomy) : Intact [] s := by
  obtain ⟨valid, rfl⟩ := make_eq_ok_iff.mp made
  refine Or.inl ⟨0, ?_, rfl, by decide, rfl, ⟨rfl, fun _ => rfl, fun _ => rfl⟩, rfl⟩
  refine ⟨valid, roomy, distinct, fun _ => rfl, rfl, rfl, ?_⟩
  intro f hf
  cases hf

end CallWire.StreamingResponse
