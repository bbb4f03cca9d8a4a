import CallWire.Proofs.Sharing.Turns

/-!
# The accounts of a response that shares credits

Only parts of the call wait for credit, and each of them takes one of its own before it goes out:
what has been sent, what is in hand and what was refused is what has been paid for (`Accounted`).

* `pays_advance`: a turn takes a credit off the count for every part of the call that it pays for;
* `pays_begin`: an action begins without taking any, and adds what it grants.
-/

namespace CallWire

theorem Credits.available_le (c : Credits) : c.available.toNat ≤ limit :=
  Nat.le_of_lt_succ c.available.toNat_lt

theorem Credits.grant_zero (c : Credits) : c.grant 0 = c := by
  have same : (c.grant 0).available = c.available := by
    apply UInt32.toNat_inj.mp
    rw [toNat_grant]
    exact Nat.min_eq_left c.available_le
  exact congrArg Credits.mk same

/-- Whether the frame is a part of a call response. -/
def Frame.isCallPart (f : Frame) : Bool :=
  match f.type? with
  | some .callResponse | some .callResponseCont => true
  | _ => false

namespace Response

variable {r s : Response} {frames : List Frame}

theorem isCallPart_frameOf (r : Response) (opening : Bool) (f : Fragment) :
    (r.frameOf opening f).isCallPart = true := by
  cases opening <;> rfl

theorem isCallPart_of_fragment {parts : List Bytes} {isLast opening : Bool}
    (cut : r.fragment parts isLast opening = .ok frames) : ∀ f ∈ frames, f.isCallPart = true := by
  obtain ⟨n, -, cut⟩ := bind_eq_ok_iff.mp cut
  obtain ⟨fragments, -, cut⟩ := bind_eq_ok_iff.mp cut
  cases cut
  intro f hf
  cases fragments with
  | nil => cases hf
  | cons first rest =>
    rcases List.mem_cons.mp hf with rfl | hf
    · exact r.isCallPart_frameOf opening first
    · obtain ⟨g, -, rfl⟩ := List.mem_map.mp hf
      exact r.isCallPart_frameOf false g

/-- Only parts of the call wait for credit. -/
def CallsWait (r : Response) : Prop := ∀ f ∈ r.backlog, f.isCallPart = true

theorem CallsWait.of_nil (empty : r.backlog = []) : r.CallsWait := by
  intro f hf
  rw [empty] at hf
  cases hf

theorem CallsWait.of_keeps (h : r.CallsWait) (k : Keeps r s) : s.CallsWait := by
  unfold CallsWait
  rw [k.backlog]
  exact h

theorem backlog_failTransport (r : Response) : r.failTransport.backlog = [] :=
  (keeps_finish r.cutOff).backlog

/-- What waits in the end did so before, or has been delivered. -/
theorem CallsWait.of_delivers (h : r.CallsWait) (d : Delivers r frames s)
    (calls : ∀ f ∈ frames, f.isCallPart = true) : s.CallsWait := by
  obtain ⟨more, sent⟩ := d.grown
  have rest : more ++ s.backlog = r.backlog ++ frames := by
    have whole : s.outlet.sent ++ s.backlog = r.outlet.sent ++ r.backlog ++ frames := d.stream
    rw [← sent, List.append_assoc, List.append_assoc] at whole
    exact List.append_cancel_left whole
  intro f hf
  have either := List.mem_append_right more hf
  rw [rest] at either
  rcases List.mem_append.mp either with waited | delivered
  · exact h f waited
  · exact calls f delivered

theorem callsWait_sendParts (h : r.CallsWait) (orderly : r.Orderly) (parts : List Bytes)
    (isLast : Bool) : (r.sendParts parts isLast).2.CallsWait := by
  have sent := partsSent orderly parts isLast
  generalize r.sendParts parts isLast = result at sent
  cases sent with
  | ended terminal => exact h
  | uncut live uncut => exact h
  | sent live cut d =>
    have begun : r.begun.CallsWait := by
      rw [begun_eq]
      exact h
    have after := begun.of_delivers d (isCallPart_of_fragment cut)
    cases isLast with
    | true => exact after
    | false => exact after
  | broken live cut d blocked => exact .of_nil (backlog_failTransport _)

theorem callsWait_sendError (h : r.CallsWait) (code : ErrorCode) (message : String) :
    (r.sendError code message).2.CallsWait := by
  have sent := errorSent r code message
  generalize r.sendError code message = result at sent
  cases sent with
  | ended terminal => exact h
  | sent live isOpen taken => exact .of_nil (keeps_finish _).backlog
  | lost live closed => exact .of_nil (keeps_finish _).backlog

/-- What an error adds to the outlet is no part of the call. -/
theorem sent_sendError (r : Response) (code : ErrorCode) (message : String) :
    ∃ errors, (r.sendError code message).2.outlet.sent = r.outlet.sent ++ errors ∧
      errors.countP Frame.isCallPart = 0 := by
  have sent := errorSent r code message
  generalize r.sendError code message = result at sent
  cases sent with
  | ended terminal => exact ⟨[], (List.append_nil _).symm, rfl⟩
  | sent live isOpen taken => exact ⟨_, (keeps_finish _).sent.trans taken, rfl⟩
  | lost live closed =>
    exact ⟨[], (keeps_finish _).sent.trans (List.append_nil _).symm, rfl⟩

theorem callsWait_onDrain (h : r.CallsWait) (granted : UInt32) :
    (r.onDrain granted).2.CallsWait := by
  have drained := drained r granted
  generalize r.onDrain granted = result at drained
  cases drained with
  | unmetered free => exact h
  | released d left => exact fun f hf => h f (left.subset hf)
  | broken waiting d blocked => exact .of_nil (backlog_failTransport _)

end Response

namespace StreamingResponse

open Response

/-- Nothing waits unless frames need credit, and then only parts of the call do. -/
def Waits (r : Response) : Prop := r.Orderly ∧ r.CallsWait

theorem waits_of_keeps {r s : Response} (h : Waits r) (k : Keeps r s) : Waits s :=
  ⟨k.orderly h.1, h.2.of_keeps k⟩

theorem waits_handleAll {r : Response} (h : Waits r) (answer : Answer Unit)
    (events : List ArgEvent) : Waits (handleAll r answer events).2 := by
  induction events generalizing r answer with
  | nil => exact h
  | cons e rest ih =>
    apply ih
    cases e with
    | parts chunks isLast =>
      exact ⟨orderly_partsSent h.1 (partsSent h.1 chunks isLast),
        callsWait_sendParts h.2 h.1 chunks isLast⟩
    | error e => exact waits_of_keeps h ⟨rfl, rfl, rfl, rfl, rfl, fun h => h, fun h => h⟩
    | finish => exact waits_of_keeps h (keeps_finish r)

theorem waits_step {s : StreamingResponse} (h : Waits s.core) (a : Action) :
    Waits (s.step a).2.core := by
  have feeds (feeds : a.feeds = true) : Waits (s.step a).2.core := by
    rw [s.step_eq_of_fed? feeds]
    cases fed : s.fed? a with
    | none => exact h
    | some t =>
      obtain ⟨code, same⟩ := core_of_fed? fed
      have begun : Waits t.core := by
        rw [same]
        exact h
      show Waits (settle _).core
      rw [settle_core]
      exact waits_handleAll begun _ _
  cases a with
  | setOk | write | endArg | send => exact feeds rfl
  | sendError code message =>
    show Waits (s.sendError code message).2.core
    rcases s.core_sendError code message with same | same
    · rw [same]
      exact h
    · rw [same]
      exact ⟨orderly_errorSent h.1 (errorSent _ _ _), callsWait_sendError h.2 code message⟩
  | onDrain granted =>
    show Waits (settle _).core
    rw [settle_core]
    exact ⟨orderly_drained h.1 (drained _ _), callsWait_onDrain h.2 granted⟩
  | setSpan span => exact h
  | closeOutletAfter n => exact h
  | shareCredits c => exact ⟨fun unmetered => (nomatch unmetered), h.2⟩

/-- Whatever is done with a streaming response, only parts of the call wait for credit. -/
theorem waits_run {s : StreamingResponse} (h : Waits s.core) (actions : List Action) :
    Waits (s.run actions).core := by
  induction actions generalizing s with
  | nil => exact h
  | cons a rest ih => exact ih (waits_step h a)

theorem waits_make {id : UInt32} {config : ResponseConfig} {s : StreamingResponse}
    (made : make id config = .ok s) : Waits s.core := by
  obtain ⟨-, rfl⟩ := make_eq_ok_iff.mp made
  exact ⟨fun _ => rfl, .of_nil rfl⟩

end StreamingResponse

namespace Sharer

/-- How many parts of the call have gone out since the response came to share credits. -/
def sent (m : Sharer) : Nat :=
  (m.response.core.outlet.sent.drop m.before).countP Frame.isCallPart

/-- How many parts of the call have their credit and have not gone out yet, which is one or none. -/
def inHand (m : Sharer) : Nat := m.stage.inHand?.toList.length

/-- What holds of a response that shares credits from one turn to the next. -/
structure Accounted (m : Sharer) : Prop where
  waiting : m.response.core.CallsWait
  inHand : ∀ f, m.stage.inHand? = some f → f.isCallPart = true
  ahead : ∀ f ∈ m.stage.ahead, f.isCallPart = true
  since : m.before ≤ m.response.core.outlet.sent.length
  /-- Every part of the call has been paid for, and nothing else has. -/
  paid : m.sent + m.inHand + m.refused = m.taken

theorem accounted_join {s : StreamingResponse} (waiting : s.core.CallsWait) :
    (join s).Accounted where
  waiting := waiting
  inHand := fun f held => nomatch held
  ahead := fun f held => nomatch held
  since := Nat.le_refl _
  paid := by
    have unsent : s.core.outlet.sent.drop s.core.outlet.sent.length = [] := List.drop_length
    simp [join, sent, Sharer.inHand, Stage.inHand?, unsent]

/-- From `m` to `n`, with `c` at hand, a credit was taken off the count for each that was paid. -/
structure Pays (c : Credits) (m n : Sharer) : Prop where
  accounted : n.Accounted
  paid : ∃ d, n.response.core.credits? = some d ∧
    n.taken + d.available.toNat = m.taken + c.available.toNat

variable {m n : Sharer} {c d : Credits} {s : StreamingResponse} {stage next failed : Stage}
  {f : Frame}

/-- What the call comes to makes no difference to what was paid. -/
theorem Pays.answering (h : m.Pays c n) (answer : Answer Unit) : m.Pays c { n with answer } :=
  ⟨⟨h.accounted.waiting, h.accounted.inHand, h.accounted.ahead, h.accounted.since,
    h.accounted.paid⟩, h.paid⟩

/-- A turn in which no part of the call goes out. -/
theorem pays_of_same (h : m.Accounted) (credits : s.core.credits? = some c)
    (same : s.core.outlet.sent = m.response.core.outlet.sent) (waiting : s.core.CallsWait)
    (free : m.stage.inHand? = none) (still : stage.inHand? = none)
    (ahead : ∀ f ∈ stage.ahead, f.isCallPart = true) :
    m.Pays c { m with response := s, stage } where
  accounted := by
    refine ⟨waiting, ?_, ahead, ?_, ?_⟩
    · intro f held
      cases still.symm.trans held
    · show m.before ≤ s.core.outlet.sent.length
      rw [same]
      exact h.since
    · have paid := h.paid
      simp only [sent, Sharer.inHand, free, still, same] at paid ⊢
      exact paid
  paid := ⟨c, credits, rfl⟩

/-- One more frame in the outlet, which counts if it is a part of the call. -/
theorem countP_sent {before : Nat} {frames : List Frame} (since : before ≤ frames.length)
    (f : Frame) : ((frames ++ [f]).drop before).countP Frame.isCallPart =
      (frames.drop before).countP Frame.isCallPart + if f.isCallPart then 1 else 0 := by
  rw [List.drop_append_of_le_length since, List.countP_append, List.countP_singleton]

/-- A turn in which a part of the call goes out, or is refused. -/
theorem pays_transmit (h : m.Accounted) (credits : m.response.core.credits? = some c)
    (hand : m.stage.inHand? = some f) (free : next.inHand? = none) (ended : failed.inHand? = none)
    (ahead : next.ahead = m.stage.ahead) (dropped : failed.ahead = []) :
    m.Pays c (m.transmit f next failed) := by
  have call := h.inHand f hand
  have paid := h.paid
  simp only [sent, Sharer.inHand, hand, Option.toList_some, List.length_singleton] at paid
  rcases m.response.core.transmit_cases f with ⟨-, o, sends, more, -⟩ | ⟨-, refuses⟩
  · have acts : m.transmit f next failed = { m with
        response := { m.response with core := { m.response.core with outlet := o } }
        stage := next } := by
      rw [transmit, sends]
    rw [acts]
    refine ⟨⟨h.waiting, ?_, ?_, ?_, ?_⟩, c, credits, rfl⟩
    · intro g held
      cases free.symm.trans held
    · rw [ahead]
      exact h.ahead
    · show m.before ≤ o.sent.length
      rw [more, List.length_append]
      exact Nat.le_add_right_of_le h.since
    · simp only [sent, Sharer.inHand, free, more, countP_sent h.since, call, if_true,
        Option.toList_none, List.length_nil]
      omega
  · have acts : m.transmit f next failed = { m.note (.error (.refused .channelClosed)) with
        response := { m.response with core := m.response.core.failTransport }
        stage := failed
        refused := m.refused + 1 } := by
      rw [transmit, refuses]
    have same : m.response.core.failTransport.outlet.sent = m.response.core.outlet.sent :=
      (Response.keeps_finish m.response.core.cutOff).sent
    rw [acts]
    refine ⟨⟨.of_nil (Response.backlog_failTransport _), ?_, ?_, ?_, ?_⟩, c, ?_, rfl⟩
    · intro g held
      cases ended.symm.trans held
    · rw [dropped]
      intro g hg
      cases hg
    · show m.before ≤ m.response.core.failTransport.outlet.sent.length
      rw [same]
      exact h.since
    · simp only [sent, note, Sharer.inHand, ended, same, Option.toList_none, List.length_nil]
      omega
    · rw [Response.credits?_failTransport]
      exact credits

/-- A turn in which a part of the call gets its credit. -/
theorem pays_take (h : m.Accounted) (taken : c.take? = some d) (free : m.stage.inHand? = none)
    (hand : stage.inHand? = some f)
    (call : f.isCallPart = true) (ahead : ∀ f ∈ stage.ahead, f.isCallPart = true)
    {backlog : List Frame} (waiting : ∀ f ∈ backlog, f.isCallPart = true) :
    m.Pays c { m with
      response := { m.response with core := { m.response.core with credits? := some d, backlog } }
      stage
      taken := m.taken + 1 } := by
  have one := Credits.toNat_take? taken
  have paid := h.paid
  simp only [sent, Sharer.inHand, free, Option.toList_none, List.length_nil] at paid
  refine ⟨⟨waiting, ?_, ahead, h.since, ?_⟩, d, rfl, ?_⟩
  · intro g held
    cases hand.symm.trans held
    exact call
  · simp only [sent, Sharer.inHand, hand, Option.toList_some, List.length_singleton]
    omega
  · show m.taken + 1 + d.available.toNat = m.taken + c.available.toNat
    omega

theorem Accounted.pays_openBatch (h : m.Accounted) (credits : m.response.core.credits? = some c)
    (here : m.stage = .pumping) (chunks : List Bytes) (isLast : Bool) :
    m.Pays c (m.openBatch chunks isLast) := by
  rcases m.openBatch_cases chunks isLast with ⟨stays, -⟩ | ⟨frames, -, cut, opens⟩
  · rw [stays]
    exact Pays.answering ⟨h, c, credits, rfl⟩ _
  · have begun := Response.begun_eq m.response.core
    have outlet := congrArg Outlet.sent m.response.core.begun_outlet
    rw [opens]
    apply pays_of_same h _ outlet
    · show m.response.core.begun.CallsWait
      rw [begun]
      exact h.waiting
    · rw [here]
      rfl
    · rfl
    · exact Response.isCallPart_of_fragment cut
    · show m.response.core.begun.credits? = some c
      rw [begun]
      exact credits

theorem pays_pump (h : m.Accounted) (credits : m.response.core.credits? = some c)
    (here : m.stage = .pumping) : m.Pays c m.pump := by
  have free : m.stage.inHand? = none := by
    rw [here]
    rfl
  have ahead : ∀ f ∈ m.stage.ahead, f.isCallPart = true := h.ahead
  unfold pump
  cases reported : m.response.queue with
  | nil =>
    apply pays_of_same h
    · rw [StreamingResponse.settle_core]
      exact credits
    · rw [StreamingResponse.settle_core]
    · rw [StreamingResponse.settle_core]
      exact h.waiting
    · exact free
    · rfl
    · exact fun f hf => nomatch hf
  | cons e queue =>
    cases e with
    | parts chunks isLast =>
      have popped : Accounted { m with response := { m.response with queue } } :=
        ⟨h.waiting, h.inHand, h.ahead, h.since, h.paid⟩
      have pays := popped.pays_openBatch credits here chunks isLast
      exact ⟨pays.accounted, pays.paid⟩
    | error e =>
      have told : m.Pays c { m with
          response := ⟨m.response.core.tell (.argError e), m.response.args, queue⟩ } :=
        pays_of_same h credits rfl h.waiting free free ahead
      exact told.answering _
    | finish =>
      have k := Response.keeps_finish m.response.core
      have kept := (Response.credits?_finish m.response.core).trans credits
      have finished : m.Pays c { m with
          response := ⟨m.response.core.finish, m.response.args, queue⟩ } :=
        pays_of_same h kept k.sent (h.waiting.of_keeps k) free free ahead
      exact finished.answering _

theorem take?_eq (credits : m.response.core.credits? = some c) :
    m.take? = c.take?.map fun d =>
      { m.mapCore (·.setCredits d) with taken := m.taken + 1 } := by
  unfold take?
  rw [credits, Option.bind_some]
  cases c.take? with
  | none => rfl
  | some d => rfl

/-- A turn in which a frame of a batch gets its credit or is parked. -/
theorem pays_sending {frames : List Frame} {isLast : Bool} (h : m.Accounted)
    (credits : m.response.core.credits? = some c)
    (here : m.stage = .sending none (f :: frames) isLast) : m.Pays c m.advance := by
  have free : m.stage.inHand? = none := by
    rw [here]
    rfl
  have calls := h.ahead
  rw [here] at calls
  obtain ⟨call, ahead⟩ := List.forall_mem_cons.mp calls
  have parks : m.Pays c { m.park f with stage := .sending none frames isLast } := by
    refine pays_of_same h credits rfl ?_ free rfl ahead
    exact List.forall_mem_append.mpr ⟨h.waiting, List.forall_mem_singleton.mpr call⟩
  simp only [advance, here, take?_eq credits]
  split
  · cases taken : c.take? with
    | none => exact parks
    | some d =>
      have next : (Stage.sending (some f) frames isLast).inHand? = some f := rfl
      exact pays_take h taken free next call ahead h.waiting
  · exact parks

/-- A turn in which a frame that waits gets its credit, if there is one. -/
theorem pays_draining (h : m.Accounted) (credits : m.response.core.credits? = some c)
    (here : m.stage = .draining none) : m.Pays c m.advance := by
  have free : m.stage.inHand? = none := by
    rw [here]
    rfl
  have ends : m.Pays c { m with stage := .settling } :=
    pays_of_same h credits rfl h.waiting free rfl (List.forall_mem_nil _)
  simp only [advance, here, take?_eq credits]
  cases waiting : m.response.core.backlog with
  | nil => exact ends
  | cons f backlog =>
    have calls := h.waiting
    rw [Response.CallsWait, waiting] at calls
    obtain ⟨call, rest⟩ := List.forall_mem_cons.mp calls
    cases taken : c.take? with
    | none => exact ends
    | some d =>
      have next : (Stage.draining (some f)).inHand? = some f := rfl
      exact pays_take h taken free next call (List.forall_mem_nil _) rest

/-- **A turn takes a credit off the count for every part of the call that it pays for.** -/
theorem pays_advance (h : m.Accounted) (credits : m.response.core.credits? = some c) :
    m.Pays c m.advance := by
  have hands {stage : Stage} (here : m.stage = stage) : m.stage.inHand? = stage.inHand? := by
    rw [here]
  have batch {stage : Stage} (here : m.stage = stage) : stage.ahead = m.stage.ahead := by
    rw [here]
  cases here : m.stage with
  | rest =>
    rw [advance, here]
    exact ⟨h, c, credits, rfl⟩
  | pumping =>
    rw [advance, here]
    exact pays_pump h credits here
  | sending inHand? frames isLast =>
    cases inHand? with
    | some f =>
      have behind := batch here
      rw [advance, here]
      exact pays_transmit h credits (hands here) rfl rfl behind rfl
    | none =>
      cases frames with
      | cons f frames => exact pays_sending h credits here
      | nil =>
        rw [advance, here]
        cases isLast with
        | true | false =>
          exact pays_of_same h credits rfl h.waiting (hands here) rfl (List.forall_mem_nil _)
  | draining inHand? =>
    cases inHand? with
    | some f =>
      have behind := batch here
      rw [advance, here]
      exact pays_transmit h credits (hands here) rfl rfl behind rfl
    | none => exact pays_draining h credits here
  | settling =>
    have core := m.response.settle_core
    rw [advance, here]
    refine pays_of_same h ?_ ?_ ?_ (hands here) rfl (List.forall_mem_nil _)
    · rw [core]
      exact credits
    · rw [core]
    · rw [core]
      exact h.waiting

/-- An error goes out without a credit, and does not count. -/
theorem pays_sendError (h : m.Accounted) (credits : m.response.core.credits? = some c)
    (code : ErrorCode) (message : String) :
    let n := m.begin (.sendError code message)
    m.Pays c n ∧ n.sent = m.sent ∧ n.response.core.credits? = some c := by
  intro n
  have back : n.before = m.before := rfl
  suffices core : ∃ errors, n.response.core.outlet.sent = m.response.core.outlet.sent ++ errors ∧
      errors.countP Frame.isCallPart = 0 ∧ n.response.core.CallsWait ∧
      n.response.core.credits? = some c by
    obtain ⟨errors, more, uncounted, waiting, kept⟩ := core
    have same : n.sent = m.sent := by
      rw [sent, more, back, List.drop_append_of_le_length h.since, List.countP_append, uncounted,
        sent]
      rfl
    refine ⟨⟨⟨waiting, h.inHand, h.ahead, ?_, ?_⟩, c, kept, rfl⟩, same, kept⟩
    · show m.before ≤ n.response.core.outlet.sent.length
      rw [more, List.length_append]
      exact Nat.le_add_right_of_le h.since
    · rw [same]
      exact h.paid
  have core : n.response.core = (m.response.sendError code message).2.core := rfl
  rw [core]
  rcases m.response.core_sendError code message with same | same
  · rw [same]
    exact ⟨[], (List.append_nil _).symm, rfl, h.waiting, credits⟩
  · rw [same, Response.credits?_sendError]
    obtain ⟨errors, more, uncounted⟩ := m.response.core.sent_sendError code message
    exact ⟨errors, more, uncounted, Response.callsWait_sendError h.waiting code message, credits⟩

/-- **An action begins without taking credits,** and adds those that it grants. -/
theorem pays_begin (h : m.Accounted) (credits : m.response.core.credits? = some c)
    (here : m.stage = .rest) (a : StreamingResponse.Action) :
    m.Pays (c.grant a.grants) (m.begin a) := by
  have free : m.stage.inHand? = none := by
    rw [here]
    rfl
  have plain (ungranted : a.grants = 0) (pays : m.Pays c (m.begin a)) :
      m.Pays (c.grant a.grants) (m.begin a) := by
    rw [ungranted, c.grant_zero]
    exact pays
  have stays : m.Pays c m := ⟨h, c, credits, rfl⟩
  have feeds (acts : m.begin a = (m.response.fed? a).elim { m with answer := (m.response.step a).1 }
      fun s => { m with response := s, stage := .pumping, answer := .ok () }) :
      m.Pays c (m.begin a) := by
    rw [acts]
    cases fed : m.response.fed? a with
    | none => exact stays.answering _
    | some s =>
      obtain ⟨code, same⟩ := StreamingResponse.core_of_fed? fed
      suffices starts : m.Pays c { m with response := s, stage := .pumping } from
        starts.answering _
      refine pays_of_same h ?_ ?_ ?_ free rfl (List.forall_mem_nil _)
      · rw [same]
        exact credits
      · rw [same]
      · rw [same]
        exact h.waiting
  cases a with
  | setOk | write | endArg | send => exact plain rfl (feeds rfl)
  | onDrain granted =>
    suffices drains : m.Pays (c.grant granted)
        { m.mapCore (·.grantCredits granted) with stage := .draining none } from drains.answering _
    refine pays_of_same h ?_ rfl h.waiting free rfl (List.forall_mem_nil _)
    show (m.response.core.grantCredits granted).credits? = _
    rw [Response.grantCredits_eq credits]
    rfl
  | sendError code message => exact plain rfl (pays_sendError h credits code message).1
  | setSpan span =>
    have spanned : m.Pays c { m with response := m.response.mapCore (·.setSpan span) } :=
      pays_of_same h credits rfl h.waiting free free h.ahead
    exact plain rfl (spanned.answering _)
  | closeOutletAfter n =>
    have closing : m.Pays c { m with response := m.response.mapCore (·.closeOutletAfter n) } :=
      pays_of_same h credits rfl h.waiting free free h.ahead
    exact plain rfl (closing.answering _)
  | shareCredits d => exact plain rfl (stays.answering _)

end Sharer

end CallWire
