import CallWire.Proofs.Streaming.Opening
import Mathlib.Control.Monad.Basic

/-!
# Rejected calls

A call is rejected if the argument stream rejects something that the call does. It should then
leave the response as it was, and tell the observer of the rejection. Nothing but that comes of it,
with two exceptions (`run_rejected`): sending both arguments when the second has ended still writes
and ends the third, and setting the status when the first argument has ended still sets it.

* `act_rejected_iff`: calls on the argument stream;
* `run_unopened`: the first argument does not end before the first frame goes out, if there is room
  for a chunk in it.
-/

namespace CallWire

namespace Response

variable {r : Response} {parts : List Bytes} {isLast : Bool} {result : Answer Unit × Response}
  {e : ArgStreamError}

/-- Sending a batch is never refused because of the arguments. -/
theorem PartsSent.ne_argStream (h : PartsSent r parts isLast result) :
    result.1 ≠ .error (.refused (.argStream e)) := by
  cases h with
  | ended terminal => nofun
  | @uncut fault live uncut =>
    cases fault with
    | refused e => nofun
    | breach b => nofun
  | sent live cut d => nofun
  | broken live cut d blocked => nofun

theorem ErrorSent.ne_argStream {code : ErrorCode} {message : String}
    (h : ErrorSent r code message result) : result.1 ≠ .error (.refused (.argStream e)) := by
  cases h with
  | ended terminal => nofun
  | sent live isOpen taken => nofun
  | lost live closed => nofun

theorem Drained.ne_argStream {result : Answer Nat × Response} (h : Drained r result) :
    result.1 ≠ .error (.refused (.argStream e)) := by
  cases h with
  | unmetered free => nofun
  | released d left => nofun
  | broken waiting d blocked => nofun

/-- Where there is room for a chunk, a batch that is sent begins the response or ends it. -/
theorem PartsSent.state_ne_initial (h : PartsSent r parts isLast result)
    (valid : r.config.validate = .ok ()) (roomy : r.config.Roomy) : result.2.state ≠ .initial := by
  cases h with
  | ended terminal =>
    intro initial
    rw [initial] at terminal
    cases terminal
  | uncut live uncut =>
    obtain ⟨frames, cut⟩ := fragment_ok_of_roomy valid roomy parts isLast (r.state = .initial)
    rw [cut] at uncut
    cases uncut
  | @sent frames s live cut d =>
    have started : s.state = .started := d.state_eq.trans (begun_state live)
    cases isLast with
    | true => nofun
    | false =>
      show s.state ≠ .initial
      rw [started]
      nofun
  | @broken front back f s live cut d blocked =>
    intro initial
    have terminal := isTerminal_failTransport s
    rw [show s.failTransport.state = .initial from initial] at terminal
    cases terminal

end Response

namespace ArgStream

variable {s : ArgStream} {errors : List ArgStreamError} {chunks : List Bytes}

/-- The actions of a call that writes and ends the second and the third argument at once. -/
def sending (arg2 arg3 : Bytes) : List Action :=
  [.write .arg2 arg2, .endArg .arg2, .write .arg3 arg3, .endArg .arg3]

/-- A last batch comes with errors only if both arguments are sent when the second has ended. -/
theorem overrun (resting : s.Resting) {actions : List Action} (script : Script actions)
    (ran : s.run actions = (spent, errors.map .error ++ [.parts chunks true, .finish])) :
    errors = [] ∨ s = idle 2 ∧ ∃ arg2 arg3, actions = sending arg2 arg3 := by
  have ends : .finish ∈ (s.run actions).2 := by
    rw [ran]
    simp
  have first {rest : List ArgEvent} {front : List Bytes} (same : .parts front true :: rest =
      errors.map .error ++ [.parts chunks true, .finish]) : errors = [] := by
    cases errors with
    | nil => rfl
    | cons e errors => cases same
  obtain ⟨n, few, rfl⟩ | rfl := resting
  · cases script with
    | write arg chunk =>
      by_cases late : arg.position < n
      · rw [run_write_late late] at ends
        simp at ends
      · rw [run_write (Nat.not_lt.mp late)] at ends
        simp at ends
    | endArg arg =>
      by_cases late : arg.position < n
      · rw [run_endArg_late late] at ends
        simp at ends
      · cases arg with
        | arg3 =>
          rw [run_endArg_last (Nat.le_of_lt_succ few)] at ran
          exact .inl (first (congrArg Prod.snd ran))
        | arg1 | arg2 =>
          rw [run_endArg (Nat.not_lt.mp late) (by decide)] at ends
          simp at ends
    | send arg2 arg3 =>
      by_cases next : n ≤ 1
      · rw [run_send next] at ran
        exact .inl (first (congrArg Prod.snd ran))
      · obtain rfl : n = 2 := by omega
        exact .inr ⟨rfl, arg2, arg3, rfl⟩
  · have rejects (k : Nat) : .finish ∉ List.replicate k (ArgEvent.error .finished) := by
      simp [List.mem_replicate]
    cases script with
    | write arg chunk => exact absurd ends (rejects 1)
    | endArg arg => exact absurd ends (rejects 1)
    | send arg2 arg3 => exact absurd ends (rejects 4)

end ArgStream

namespace StreamingResponse

open Response

variable {s t : StreamingResponse} {e : ArgStreamError} {actions : List ArgStream.Action}

/-- From `s` to `t`, nothing has happened but that the observer was told of rejections. -/
structure Untouched (s t : StreamingResponse) : Prop where
  /-- No frame was sent. -/
  outlet : t.core.outlet = s.core.outlet
  /-- No frame was parked. -/
  backlog : t.core.backlog = s.core.backlog
  credits : t.core.credits? = s.core.credits?
  state : t.core.state = s.core.state
  status : t.core.code = s.core.code
  /-- The same argument is open, and the same bytes are pending. -/
  args : t.args = s.args
  told : ∃ errors : List ArgStreamError, t.core.events = s.core.events ++ errors.map .argError

/-- The calls that take effect although they are rejected: those that send both arguments when the
second has ended, and those that change the status when the first has. -/
def Oversteps (s : StreamingResponse) : Action → Prop
  | .send _ _ => s.args.current? = some .arg3
  | .setOk ok => (if ok then CallResponse.ok else CallResponse.notOk) ≠ s.core.code
  | _ => False

theorem untouched_tellRejections (s : StreamingResponse) (errors : List ArgStreamError) :
    Untouched s ⟨s.core.tellRejections errors, s.args, []⟩ :=
  ⟨rfl, rfl, rfl, rfl, rfl, rfl, errors, rfl⟩

/-- **A call on the argument stream that is rejected leaves the response as it was,** unless it
sends both arguments when the second has ended. -/
theorem act_rejected_iff (h : s.Settled) (live : s.core.state.isTerminal = false)
    (script : ArgStream.Script actions)
    (rejected : (s.act actions).1 = .error (.refused (.argStream e))) :
    Untouched s (s.act actions).2 ↔
      ¬ (s.args = .idle 2 ∧ ∃ arg2 arg3, actions = ArgStream.sending arg2 arg3) := by
  have reported := ArgStream.reported h.resting script
  generalize ran : s.args.run actions = result at reported
  cases reported with
  | rejected errors =>
    have sound : (s.core.tellRejections errors).state ≠ .error := by
      intro failed
      rw [show s.core.state = .error from failed] at live
      cases live
    rw [act_rejected h.queue ran, settle, if_neg sound]
    refine ⟨?_, fun _ => untouched_tellRejections s errors⟩
    rintro - ⟨two, arg2, arg3, rfl⟩
    rw [two, ArgStream.sending, ArgStream.run_send_late] at ran
    exact absurd (congrArg (·.1.finished) ran) nofun
  | batch few running chunks =>
    rw [act_batch h.queue ran] at rejected
    exact absurd rejected (partsSent h.orderly chunks false).ne_argStream
  | last running errors chunks =>
    have sent := partsSent (r := s.core.tellRejections errors) h.orderly chunks true
    rw [act_last h.queue ran] at rejected ⊢
    obtain rfl | overrun := ArgStream.overrun h.resting script ran
    · exact absurd rejected sent.ne_argStream
    · refine ⟨fun untouched => ?_, fun within => absurd overrun within⟩
      have spent : (settle ⟨((s.core.tellRejections errors).sendParts chunks true).2.finish,
          .spent, []⟩).args = .spent := by
        unfold settle
        split
        · rfl
        · rfl
      rw [← untouched.args, spent] at running
      cases running

/-- A call on the argument stream of a response that has ended is not rejected by the stream. -/
theorem actIfOpen_rejected {attempted : String}
    (rejected : (s.actIfOpen attempted actions).1 = .error (.refused (.argStream e))) :
    s.core.state.isTerminal = false ∧ s.actIfOpen attempted actions = s.act actions := by
  unfold actIfOpen ensureOpen at *
  cases terminal : s.core.state.isTerminal with
  | true =>
    rw [terminal] at rejected
    cases rejected
  | false => exact ⟨rfl, rfl⟩

/-- A write or an end that is rejected leaves the response as it was. -/
theorem untouched_of_rejected {attempted : String} (h : s.Settled)
    (script : ArgStream.Script actions)
    (short : actions.length = 2)
    (rejected : (s.actIfOpen attempted actions).1 = .error (.refused (.argStream e))) :
    Untouched s (s.actIfOpen attempted actions).2 := by
  obtain ⟨live, acts⟩ := actIfOpen_rejected rejected
  rw [acts] at rejected ⊢
  apply (act_rejected_iff h live script rejected).mpr
  rintro ⟨-, arg2, arg3, rfl⟩
  cases short

theorem current?_eq_arg3_iff (resting : s.args.Resting) :
    s.args.current? = some .arg3 ↔ s.args = .idle 2 := by
  constructor
  · intro third
    obtain ⟨n, few, idle⟩ | spent := resting
    · rw [idle] at third ⊢
      obtain rfl | rfl | rfl : n = 0 ∨ n = 1 ∨ n = 2 := by omega
      · cases third
      · cases third
      · rfl
    · rw [spent] at third
      cases third
  · intro idle
    rw [idle]
    rfl

theorem send_rejected_iff (h : s.Settled) (arg2 arg3 : Bytes)
    (rejected : (s.send arg2 arg3).1 = .error (.refused (.argStream e))) :
    Untouched s (s.send arg2 arg3).2 ↔ ¬ s.args.current? = some .arg3 := by
  obtain ⟨live, acts⟩ := actIfOpen_rejected rejected
  rw [send, acts] at rejected ⊢
  rw [act_rejected_iff h live (.send arg2 arg3) rejected, current?_eq_arg3_iff h.resting]
  constructor
  · exact fun within idle => within ⟨idle, arg2, arg3, rfl⟩
  · exact fun within overrun => within overrun.1

/-- A status that is rejected because the first argument has ended is set all the same. -/
theorem setOk_rejected_iff (h : s.Settled) (ok : Bool)
    (rejected : (s.setOk ok).1 = .error (.refused (.argStream e))) :
    Untouched s (s.setOk ok).2 ↔
      ¬ (if ok then CallResponse.ok else CallResponse.notOk) ≠ s.core.code := by
  by_cases initial : s.core.state = .initial
  · rw [setOk_of_initial initial] at rejected ⊢
    have settled := (continues_withStatus h ok).settled
    have set := (act_rejected_iff settled (live_of_initial initial) (.endArg .arg1) rejected).mpr (by
      rintro ⟨-, arg2, arg3, same⟩
      cases same)
    constructor
    · intro untouched
      rw [not_not, ← untouched.status]
      exact set.status.symm
    · intro same
      rw [not_not] at same
      exact ⟨set.outlet, set.backlog, set.credits, set.state, set.status.trans same, set.args, set.told⟩
  · rw [setOk_of_begun initial] at rejected
    cases rejected

theorem sendError_ne_argStream (queue : s.queue = []) (code : ErrorCode) (message : String) :
    (s.sendError code message).1 ≠ .error (.refused (.argStream e)) := by
  have sent := (errorSent s.core code message).ne_argStream (e := e)
  cases terminal : s.core.state.isTerminal with
  | true => simp [sendError, ensureOpen, terminal]
  | false => simpa [sendError, ensureOpen, terminal, queue] using sent

theorem onDrain_ne_argStream (granted : UInt32) :
    (s.onDrain granted).1.map (fun _ => ()) ≠ .error (.refused (.argStream e)) := by
  have drained := drained s.core granted
  show (s.core.onDrain granted).1.map (fun _ => ()) ≠ _
  intro rejected
  cases answer : (s.core.onDrain granted).1 with
  | ok sent =>
    rw [answer] at rejected
    cases rejected
  | error fault =>
    rw [answer] at rejected
    cases rejected
    exact drained.ne_argStream answer

/-- **A rejected call leaves the response as it was, unless it oversteps.** -/
theorem step_rejected_iff (h : s.Settled) (a : Action)
    (rejected : (s.step a).1 = .error (.refused (.argStream e))) :
    Untouched s (s.step a).2 ↔ ¬ Oversteps s a := by
  cases a with
  | setOk ok => exact setOk_rejected_iff h ok rejected
  | send arg2 arg3 => exact send_rejected_iff h arg2 arg3 rejected
  | write arg chunk =>
    simp only [step, write, Oversteps, not_false_eq_true, iff_true] at rejected ⊢
    split at rejected
    · cases rejected
    · rename_i later
      rw [if_neg later]
      exact untouched_of_rejected h (.write arg chunk) rfl rejected
  | endArg arg =>
    simp only [step, endArg, Oversteps, not_false_eq_true, iff_true] at rejected ⊢
    split at rejected
    · cases rejected
    · rename_i later
      rw [if_neg later]
      exact untouched_of_rejected h (.endArg arg) rfl rejected
  | sendError code message => exact absurd rejected (sendError_ne_argStream h.queue code message)
  | onDrain granted => exact absurd rejected (onDrain_ne_argStream granted)
  | setSpan span => cases rejected
  | closeOutletAfter n => cases rejected
  | shareCredits c => cases rejected

/-- Where there is room for a chunk, the first argument ends when the first frame goes out. -/
def Unopened (s : StreamingResponse) : Prop := s.core.state = .initial → s.args = .idle 0

theorem unopened_settle {r : Response} {u : ArgStream} (begun : r.state ≠ .initial) :
    Unopened (settle ⟨r, u, []⟩) := by
  intro initial
  rw [settle_core] at initial
  exact absurd initial begun

theorem act_unopened (h : s.Settled) (roomy : s.core.config.Roomy) (unopened : s.Unopened)
    (live : s.core.state.isTerminal = false) (script : ArgStream.Script actions) :
    (s.act actions).2.Unopened := by
  have reported := ArgStream.reported h.resting script
  generalize ran : s.args.run actions = result at reported
  cases reported with
  | rejected errors =>
    have sound : (s.core.tellRejections errors).state ≠ .error := by
      intro failed
      rw [show s.core.state = .error from failed] at live
      cases live
    rw [act_rejected h.queue ran, settle, if_neg sound]
    exact unopened
  | batch few running chunks =>
    rw [act_batch h.queue ran]
    exact unopened_settle ((partsSent h.orderly chunks false).state_ne_initial h.valid roomy)
  | last running errors chunks =>
    have sent := partsSent (r := s.core.tellRejections errors) h.orderly chunks true
    rw [act_last h.queue ran]
    apply unopened_settle
    rw [(keeps_finish _).state]
    exact sent.state_ne_initial h.valid roomy

theorem sendError_unopened (h : s.Settled) (unopened : s.Unopened) (code : ErrorCode)
    (message : String) : (s.sendError code message).2.Unopened := by
  cases terminal : s.core.state.isTerminal with
  | true =>
    have kept : (s.sendError code message).2 = s := by simp [sendError, ensureOpen, terminal]
    rw [kept]
    exact unopened
  | false =>
    have spent : (s.sendError code message).2.args = .spent := by
      simp [sendError, ensureOpen, terminal, h.queue, ArgStream.finishAll_of_resting h.resting]
    have ended := (sendError_settled h terminal code message).2.1 spent
    intro initial
    rw [initial] at ended
    cases ended

theorem onDrain_unopened (unopened : s.Unopened) (granted : UInt32) :
    (s.onDrain granted).2.Unopened := by
  have known := drained_state (drained s.core granted)
  show (settle { s with core := (s.core.onDrain granted).2 }).Unopened
  intro initial
  rw [settle_core] at initial
  have sound : (s.core.onDrain granted).2.state ≠ .error := by
    rw [show (s.core.onDrain granted).2.state = .initial from initial]
    nofun
  rw [settle, if_neg sound]
  exact unopened ((known.resolve_right sound).symm.trans initial)

theorem step_unopened (h : s.Settled) (roomy : s.core.config.Roomy) (unopened : s.Unopened)
    (a : Action) : (s.step a).2.Unopened := by
  have acts {attempted : String} {actions : List ArgStream.Action}
      (script : ArgStream.Script actions) : (s.actIfOpen attempted actions).2.Unopened := by
    unfold actIfOpen ensureOpen
    cases terminal : s.core.state.isTerminal with
    | true => exact unopened
    | false => exact act_unopened h roomy unopened terminal script
  cases a with
  | setOk ok =>
    show (s.setOk ok).2.Unopened
    by_cases initial : s.core.state = .initial
    · rw [setOk_of_initial initial]
      have settled := (continues_withStatus h ok).settled
      exact act_unopened settled roomy unopened (live_of_initial initial) (.endArg .arg1)
    · rw [setOk_of_begun initial]
      exact unopened
  | write arg chunk =>
    show (s.write arg chunk).2.Unopened
    unfold write
    split
    · exact unopened
    · exact acts (.write arg chunk)
  | endArg arg =>
    show (s.endArg arg).2.Unopened
    unfold endArg
    split
    · exact unopened
    · exact acts (.endArg arg)
  | send arg2 arg3 => exact acts (.send arg2 arg3)
  | sendError code message => exact sendError_unopened h unopened code message
  | onDrain granted => exact onDrain_unopened unopened granted
  | setSpan span => exact unopened
  | closeOutletAfter n => exact unopened
  | shareCredits c => exact unopened

theorem run_unopened (h : s.Settled) (roomy : s.core.config.Roomy) (unopened : s.Unopened)
    (actions : List Action) : (s.run actions).Unopened := by
  induction actions generalizing s with
  | nil => exact unopened
  | cons a rest ih =>
    obtain ⟨settled, config, -, -⟩ := step_settled h a
    exact ih settled (config ▸ roomy) (step_unopened h roomy unopened a)

/-- Before the first argument has ended, the argument stream does not reject the status. -/
theorem setOk_ne_argStream (h : s.Settled) (unopened : s.Unopened) (ok : Bool) :
    (s.setOk ok).1 ≠ .error (.refused (.argStream e)) := by
  by_cases initial : s.core.state = .initial
  · have begins : (s.withStatus ok).args.run [.endArg .arg1, .flush] =
        (.idle 1, [.parts [[], []] false]) := by
      rw [show (s.withStatus ok).args = .idle 0 from unopened initial]
      exact ArgStream.run_endArg (Nat.le_refl 0) (by decide)
    have settled := (continues_withStatus h ok).settled
    rw [setOk_of_initial initial, act_batch settled.queue begins]
    exact (partsSent settled.orderly _ false).ne_argStream
  · rw [setOk_of_begun initial]
    nofun

/-- What comes of a call that the argument stream rejects. -/
structure Rejected (config : ResponseConfig) (s : StreamingResponse) (a : Action) : Prop where
  /-- Nothing but that the observer is told, unless the call oversteps. -/
  untouched : Untouched s (s.step a).2 ↔ ¬ Oversteps s a
  /-- The stream rejects a status only if the first frame has no room for a chunk. -/
  status : config.Roomy → ∀ ok, a ≠ .setOk ok

/-- **A rejected call has no effect, unless it oversteps,** whatever was called before. -/
theorem run_rejected {id : UInt32} {config : ResponseConfig} {start : StreamingResponse}
    (made : make id config = .ok start) (actions : List Action) {a : Action}
    (rejected : ((start.run actions).step a).1 = .error (.refused (.argStream e))) :
    Rejected config (start.run actions) a := by
  obtain ⟨settled, same, -⟩ := settled_make made
  obtain ⟨h, -, -⟩ := run_settled settled actions
  refine ⟨step_rejected_iff h a rejected, ?_⟩
  rintro roomy ok rfl
  have fresh : start.Unopened := by
    obtain ⟨-, rfl⟩ := make_eq_ok_iff.mp made
    exact fun _ => rfl
  exact setOk_ne_argStream h (run_unopened settled (same ▸ roomy) fresh actions) ok rejected

theorem run_rejected_lateWrite : ∃ start, make 1 .default = .ok start ∧
    ((start.run [.write .arg3 [1]]).step (.write .arg2 [2])).1 =
      .error (.refused (.argStream (.writeAfterEnd .arg2))) ∧
    Rejected .default (start.run [.write .arg3 [1]]) (.write .arg2 [2]) ∧
    ¬ Oversteps (start.run [.write .arg3 [1]]) (.write .arg2 [2]) := by
  have rejected : (((⟨fresh 1 .default, .empty, []⟩ : StreamingResponse).run
      [.write .arg3 [1]]).step (.write .arg2 [2])).1 =
        .error (.refused (.argStream (.writeAfterEnd .arg2))) := by
    decide +kernel
  exact ⟨_, rfl, rejected, run_rejected rfl _ rejected, id⟩

/-- Both arguments are sent when the second has ended: the call is rejected, and completes the
response. -/
theorem send_oversteps : ∃ start, make 1 .default = .ok start ∧
    ((start.run [.setOk true, .endArg .arg2]).step (.send [1] [2])).1 =
      .error (.refused (.argStream (.writeAfterEnd .arg2))) ∧
    (start.run [.setOk true, .endArg .arg2]).core.state = .started ∧
    (start.run [.setOk true, .endArg .arg2, .send [1] [2]]).core.state = .done ∧
    (start.run [.setOk true, .endArg .arg2]).core.outlet.sent.length = 2 ∧
    (start.run [.setOk true, .endArg .arg2, .send [1] [2]]).core.outlet.sent.length = 3 ∧
    ¬ Untouched (start.run [.setOk true, .endArg .arg2])
      ((start.run [.setOk true, .endArg .arg2]).step (.send [1] [2])).2 := by
  refine ⟨_, rfl, ?_, ?_, ?_, ?_, ?_, fun untouched => absurd untouched.state ?_⟩
  all_goals decide +kernel

/-- A status is set when the first argument has ended, although its end could not be sent for want
of room: the call is rejected, and changes the status. -/
theorem setOk_oversteps : ∃ start, make 1 cramped = .ok start ∧
    ((start.run [.setOk true]).step (.setOk false)).1 =
      .error (.refused (.argStream (.alreadyEnded .arg1))) ∧
    ¬ Untouched (start.run [.setOk true]) ((start.run [.setOk true]).step (.setOk false)).2 := by
  refine ⟨_, rfl, ?_, fun untouched => absurd untouched.status ?_⟩
  all_goals decide +kernel

end StreamingResponse

end CallWire
