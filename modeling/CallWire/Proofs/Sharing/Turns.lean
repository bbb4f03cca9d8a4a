import CallWire.Proofs.Streaming.Settled
import Mathlib.Logic.Relation

/-!
# Turns of responses that share credits

Responses that draw on one count of credits get in each other's way: while one of them is in the
middle of a call, others take credits and are granted some. A call is therefore cut into turns, none
of which looks at the count more than once. A frame that needs a credit takes it in one turn and is
put into the outlet in another.

The turns of a call that nobody interrupts come to what the call comes to as a whole
(`Sharer.completes`).
-/

namespace CallWire

namespace StreamingResponse

/-- The response when the arguments have been written or ended, if the action does so and is not
refused. What the argument stream reports has not been dealt with. -/
def fed? (s : StreamingResponse) : Action → Option StreamingResponse
  | .setOk ok =>
      match s.core.setOk ok with
      | (.error _, _) => none
      | (.ok (), core) => some ([.endArg .arg1, .flush].foldl argAction { s with core })
  | .write arg chunk =>
      if arg = .arg1 ∨ s.core.state.isTerminal then none
      else some ([.write arg chunk, .flush].foldl argAction s)
  | .endArg arg =>
      if arg = .arg1 ∨ s.core.state.isTerminal then none
      else some ([.endArg arg, .flush].foldl argAction s)
  | .send arg2 arg3 =>
      if s.core.state.isTerminal then none
      else some ([.write .arg2 arg2, .endArg .arg2, .write .arg3 arg3, .endArg .arg3].foldl
        argAction s)
  | _ => none

/-- Whether an action feeds the arguments, unless it is refused. -/
def Action.feeds : Action → Bool
  | .setOk _ | .write _ _ | .endArg _ | .send _ _ => true
  | _ => false

/-- What feeds the arguments has their reports dealt with, and what is refused changes nothing. -/
theorem step_eq_of_fed? (s : StreamingResponse) {a : Action} (feeds : a.feeds = true) :
    s.step a = (s.fed? a).elim ((s.step a).1, s) pump := by
  have acts (attempted : String) (actions : List ArgStream.Action) :
      s.actIfOpen attempted actions =
        if s.core.state.isTerminal then ((s.actIfOpen attempted actions).1, s)
        else (actions.foldl argAction s).pump := by
    unfold actIfOpen Response.ensureOpen
    cases s.core.state.isTerminal with
    | true => rfl
    | false => rfl
  cases a with
  | setOk ok =>
    show s.setOk ok = (s.fed? (.setOk ok)).elim ((s.setOk ok).1, s) pump
    unfold setOk fed? Response.setOk
    by_cases initial : s.core.state = .initial
    · simp only [initial, if_true]
      rfl
    · simp only [initial, if_false, Option.elim_none]
  | write arg chunk =>
    show s.write arg chunk = (s.fed? (.write arg chunk)).elim ((s.write arg chunk).1, s) pump
    unfold write fed?
    by_cases first : arg = .arg1
    · simp only [first, if_true, true_or, Option.elim_none]
    · simp only [first, if_false, false_or]
      rw [acts]
      split
      · rfl
      · rfl
  | endArg arg =>
    show s.endArg arg = (s.fed? (.endArg arg)).elim ((s.endArg arg).1, s) pump
    unfold endArg fed?
    by_cases first : arg = .arg1
    · simp only [first, if_true, true_or, Option.elim_none]
    · simp only [first, if_false, false_or]
      rw [acts]
      split
      · rfl
      · rfl
  | send arg2 arg3 =>
    show s.send arg2 arg3 = (s.fed? (.send arg2 arg3)).elim ((s.send arg2 arg3).1, s) pump
    unfold send fed?
    rw [acts]
    split
    · rfl
    · rfl
  | sendError | onDrain | setSpan | closeOutletAfter | shareCredits => cases feeds

/-- Feeding the arguments changes nothing about the response but its status. -/
theorem core_of_fed? {s t : StreamingResponse} {a : Action} (fed : s.fed? a = some t) :
    ∃ code, t.core = { s.core with code } := by
  have folded {u : StreamingResponse} {actions : List ArgStream.Action} {closed : Prop}
      [Decidable closed]
      (fed : (if closed then none else some (actions.foldl argAction u)) = some t) :
      t.core = u.core := by
    split at fed
    · cases fed
    · cases fed
      rw [foldl_argAction]
  cases a with
  | setOk ok =>
    by_cases initial : s.core.state = .initial
    · have set : s.core.setOk ok =
          (.ok (), { s.core with code := if ok then CallResponse.ok else CallResponse.notOk }) :=
        if_pos initial
      simp only [fed?, set, Option.some.injEq] at fed
      rw [← fed, foldl_argAction]
      exact ⟨_, rfl⟩
    · have refused : s.core.setOk ok =
          (.error (.refused (.alreadyStarted s.core.state)), s.core) := if_neg initial
      simp only [fed?, refused, reduceCtorEq] at fed
  | write | endArg | send => exact ⟨_, folded fed⟩
  | sendError | onDrain | setSpan | closeOutletAfter | shareCredits => cases fed

theorem core_sendError (s : StreamingResponse) (code : ErrorCode) (message : String) :
    (s.sendError code message).2.core = s.core ∨
      (s.sendError code message).2.core = (s.core.sendError code message).2 := by
  unfold sendError
  split
  · exact Or.inl rfl
  · by_cases empty : s.queue.isEmpty
    · rw [if_pos empty]
      exact Or.inr rfl
    · rw [if_neg empty]
      exact Or.inl rfl

/-- The failure of the first of two answers, or else the second. -/
def firstFailure (answer next : Answer Unit) : Answer Unit :=
  match answer with
  | .ok () => next
  | .error fault => .error fault

theorem firstFailure_ok (answer : Answer Unit) : firstFailure answer (.ok ()) = answer := by
  cases answer with
  | ok _ => rfl
  | error _ => rfl

/-- The credits that an action grants. -/
def Action.grants : Action → UInt32
  | .onDrain granted => granted
  | _ => 0

end StreamingResponse

/-- What a response is in the middle of, from one turn to the next. -/
inductive Stage where
  | rest
  /-- Deals with what the argument stream has reported. -/
  | pumping
  /-- Sends the frames of a batch, the first of which may have its credit already. -/
  | sending (inHand? : Option Frame) (frames : List Frame) (isLast : Bool)
  /-- Sends the frames that wait, the first of which may have its credit already. -/
  | draining (inHand? : Option Frame)
  /-- Gives up the arguments if the response has failed. -/
  | settling

namespace Stage

def isRest : Stage → Bool
  | rest => true
  | _ => false

theorem eq_rest_of_isRest {stage : Stage} (here : stage.isRest = true) : stage = rest := by
  cases stage with
  | rest => rfl
  | pumping | sending | draining | settling => cases here

/-- The frame that has its credit and has not been put into the outlet yet. -/
def inHand? : Stage → Option Frame
  | sending inHand? _ _ | draining inHand? => inHand?
  | _ => none

/-- The frames of the batch that have not got so far. -/
def ahead : Stage → List Frame
  | sending _ frames _ => frames
  | _ => []

end Stage

/-- A response that shares its credits. -/
structure Sharer where
  response : StreamingResponse
  stage : Stage
  /-- What the call has come to so far, or what the last one came to. -/
  answer : Answer Unit
  /-- How many frames it had sent before. -/
  before : Nat
  /-- How many credits it has taken. -/
  taken : Nat
  /-- How many frames its outlet has refused that had their credit. -/
  refused : Nat

namespace Response

def grantCredits (r : Response) (amount : UInt32) : Response :=
  { r with credits? := r.credits?.map (·.grant amount) }

theorem grantCredits_eq {r : Response} {c : Credits} (credits : r.credits? = some c)
    (amount : UInt32) : r.grantCredits amount = r.setCredits (c.grant amount) := by
  rw [grantCredits, credits]
  rfl

theorem credits?_finish (r : Response) : r.finish.credits? = r.credits? := by
  unfold finish
  split
  · rfl
  · rfl

theorem credits?_failTransport (r : Response) : r.failTransport.credits? = r.credits? :=
  credits?_finish r.cutOff

theorem credits?_sendError (r : Response) (code : ErrorCode) (message : String) :
    (r.sendError code message).2.credits? = r.credits? := by
  have sent := errorSent r code message
  generalize r.sendError code message = result at sent
  cases sent with
  | ended terminal => rfl
  | sent live isOpen taken => exact credits?_finish _
  | lost live closed => exact credits?_finish _

/-- A frame has to wait if others do, or if there is no credit for it. -/
theorem enqueue_of_waits {r : Response} (metered : r.credits? ≠ none) (f : Frame)
    (waits : r.backlog ≠ [] ∨ r.credits?.bind Credits.take? = none) :
    r.enqueue f = (.ok (), r.park [f]) := by
  obtain ⟨c, credits⟩ := Option.ne_none_iff_exists'.mp metered
  by_cases empty : r.backlog = []
  · have exhausted : c.take? = none := by simpa [credits, empty] using waits
    simp [enqueue, credits, empty, exhausted, park]
  · simp [enqueue, credits, empty, park]

/-- Otherwise it takes a credit. -/
theorem enqueue_of_taken {r : Response} {c : Credits} (empty : r.backlog = [])
    (taken : r.credits?.bind Credits.take? = some c) (f : Frame) :
    r.enqueue f = (r.setCredits c).transmit f := by
  obtain ⟨d, credits, taken⟩ := Option.bind_eq_some_iff.mp taken
  simp [enqueue, credits, empty, taken, setCredits]

/-- All frames go on waiting if there is no credit. -/
theorem release_of_none {r : Response} (exhausted : r.credits?.bind Credits.take? = none) (sent : Nat)
    (f : Frame) (rest : List Frame) :
    r.release sent (f :: rest) = (.ok sent, { r with backlog := f :: rest }) := by
  simp only [release, exhausted]

/-- The first of the frames that wait takes a credit and goes out. -/
theorem release_of_sent {r s : Response} {c : Credits} {f : Frame} {rest : List Frame}
    (taken : r.credits?.bind Credits.take? = some c)
    (sends : { r with credits? := some c, backlog := rest }.transmit f = (.ok (), s)) (sent : Nat) :
    r.release sent (f :: rest) = s.release (sent + 1) rest := by
  simp only [release, taken, sends]

/-- The first of the frames that wait takes a credit and finds the outlet closed. -/
theorem release_of_refused {r s : Response} {c : Credits} {f : Frame} {rest : List Frame}
    {fault : Fault ResponseError} (taken : r.credits?.bind Credits.take? = some c)
    (refused : { r with credits? := some c, backlog := rest }.transmit f = (.error fault, s))
    (sent : Nat) : r.release sent (f :: rest) = (.error fault, s.failTransport) := by
  simp only [release, taken, refused]

/-- What the frames of a batch leave when they have been sent, parked or refused. -/
def closeBatch (isLast : Bool) : Answer Unit × Response → Response
  | (.ok (), r) => if isLast then { r with state := .done } else r
  | (.error _, r) => r.failTransport

theorem sendParts_eq_closeBatch {r : Response} {parts : List Bytes} {isLast : Bool}
    {frames : List Frame} (live : r.state.isTerminal = false)
    (cut : r.fragment parts isLast (r.state = .initial) = .ok frames) :
    r.sendParts parts isLast = ((r.begun.enqueueAll frames).1,
      closeBatch isLast (r.begun.enqueueAll frames)) := by
  have begins : (if r.state = .initial then { r with state := .started }.noteSend else r) =
      r.begun := rfl
  simp only [sendParts, ensureOpen, live, Bool.false_eq_true, if_false, cut, begins]
  cases r.begun.enqueueAll frames with
  | mk answer s =>
    cases answer with
    | ok _ => rfl
    | error _ => rfl

end Response

namespace Sharer

/-- A response that comes to share credits. -/
def join (s : StreamingResponse) : Sharer := ⟨s, .rest, .ok (), s.core.outlet.sent.length, 0, 0⟩

def mapCore (m : Sharer) (f : Response → Response) : Sharer :=
  { m with response := m.response.mapCore f }

/-- Goes on with the answer to a part of the call. -/
def note (m : Sharer) (next : Answer Unit) : Sharer :=
  { m with answer := StreamingResponse.firstFailure m.answer next }

/-- Begins an action, which takes further turns unless it is over at once. The credits are those of
all, and no other count takes their place. -/
def begin (m : Sharer) (a : StreamingResponse.Action) : Sharer :=
  match a with
  | .setOk _ | .write _ _ | .endArg _ | .send _ _ =>
      (m.response.fed? a).elim { m with answer := (m.response.step a).1 } fun s =>
        { m with response := s, stage := .pumping, answer := .ok () }
  | .onDrain granted =>
      { m.mapCore (·.grantCredits granted) with stage := .draining none, answer := .ok () }
  | .sendError _ _ | .setSpan _ | .closeOutletAfter _ =>
      { m with response := (m.response.step a).2, answer := (m.response.step a).1 }
  | .shareCredits _ => { m with answer := .ok () }

/-- Cuts a batch into frames, which are sent next, unless it is refused. -/
def openBatch (m : Sharer) (chunks : List Bytes) (isLast : Bool) : Sharer :=
  let r := m.response.core
  match r.ensureOpen "send call response frame" with
  | .error fault => m.note (.error fault)
  | .ok () =>
      match r.fragment chunks isLast (r.state = .initial) with
      | .error fault => m.note (Answer.ofOutcome (.error fault))
      | .ok frames => { m.mapCore Response.begun with stage := .sending none frames isLast }

/-- Deals with one report of the argument stream. -/
def pump (m : Sharer) : Sharer :=
  match m.response.queue with
  | [] => { m with response := m.response.settle, stage := .rest }
  | e :: queue =>
      let m := { m with response := { m.response with queue } }
      match e with
      | .parts chunks isLast => m.openBatch chunks isLast
      | .error _ | .finish =>
          let (next, core) := StreamingResponse.handle m.response.core e
          { m with response := { m.response with core } }.note next

/-- Parks a frame behind those that wait. -/
def park (m : Sharer) (f : Frame) : Sharer := m.mapCore (·.park [f])

/-- Takes a credit, if there is one. -/
def take? (m : Sharer) : Option Sharer :=
  match m.response.core.credits?.bind Credits.take? with
  | none => none
  | some c => some { m.mapCore (·.setCredits c) with taken := m.taken + 1 }

/-- Puts a frame that has its credit into the outlet. A response whose outlet is closed fails. -/
def transmit (m : Sharer) (f : Frame) (next failed : Stage) : Sharer :=
  match m.response.core.transmit f with
  | (.ok (), core) => { m with response := { m.response with core }, stage := next }
  | (.error fault, core) =>
      { m.note (.error fault) with
        response := { m.response with core := core.failTransport }
        stage := failed
        refused := m.refused + 1 }

/-- Takes one turn. -/
def advance (m : Sharer) : Sharer :=
  match m.stage with
  | .rest => m
  | .pumping => m.pump
  | .sending (some f) frames isLast => m.transmit f (.sending none frames isLast) .pumping
  | .sending none (f :: frames) isLast =>
      let parked := { m.park f with stage := .sending none frames isLast }
      if m.response.core.backlog.isEmpty then
        match m.take? with
        | some m => { m with stage := .sending (some f) frames isLast }
        | none => parked
      else parked
  | .sending none [] isLast =>
      { m.mapCore fun r => if isLast then { r with state := .done } else r with stage := .pumping }
  | .draining (some f) => m.transmit f (.draining none) .settling
  | .draining none =>
      match m.response.core.backlog with
      | [] => { m with stage := .settling }
      | f :: backlog =>
          match m.take? with
          | some m => { m.mapCore ({ · with backlog }) with stage := .draining (some f) }
          | none => { m with stage := .settling }
  | .settling => { m with response := m.response.settle, stage := .rest }

/-- A batch is refused as a whole, or its frames are sent next. -/
theorem openBatch_cases (m : Sharer) (chunks : List Bytes) (isLast : Bool) :
    (m.openBatch chunks isLast = m.note (m.response.core.sendParts chunks isLast).1 ∧
      (m.response.core.sendParts chunks isLast).2 = m.response.core) ∨
    ∃ frames, m.response.core.state.isTerminal = false ∧
      m.response.core.fragment chunks isLast (m.response.core.state = .initial) = .ok frames ∧
      m.openBatch chunks isLast =
        { m.mapCore Response.begun with stage := .sending none frames isLast } := by
  cases terminal : m.response.core.state.isTerminal with
  | true => exact Or.inl (by simp [openBatch, Response.sendParts, Response.ensureOpen, terminal])
  | false =>
    cases cut : m.response.core.fragment chunks isLast (m.response.core.state = .initial) with
    | error fault =>
      exact Or.inl (by simp [openBatch, Response.sendParts, Response.ensureOpen, terminal, cut])
    | ok frames =>
      refine Or.inr ⟨frames, rfl, rfl, ?_⟩
      simp [openBatch, Response.ensureOpen, terminal, cut]

section Alone

variable {m n : Sharer} {stage next : Stage} {s t : StreamingResponse} {f : Frame}
  {frames : List Frame} {isLast : Bool} {answer later : Answer Unit}

/-- Some turns, between which nothing else happens, lead to `stage`, to an answer so far and to the
response `s`, whose frames still need credit. -/
def Comes (m : Sharer) (stage : Stage) (answer : Answer Unit) (s : StreamingResponse) : Prop :=
  ∃ n, Relation.ReflTransGen (fun m n => advance m = n) m n ∧ n.stage = stage ∧
    n.answer = answer ∧ n.response = s ∧ s.core.credits? ≠ none

theorem comes_of_eq (here : m.stage = stage) (told : m.answer = answer) (same : m.response = s)
    (metered : s.core.credits? ≠ none) : m.Comes stage answer s :=
  ⟨m, .refl, here, told, same, metered⟩

theorem Comes.of_advance (h : m.advance.Comes stage answer s) : m.Comes stage answer s := by
  obtain ⟨n, leads, rest⟩ := h
  exact ⟨n, .head rfl leads, rest⟩

theorem Comes.trans (first : m.Comes stage answer s)
    (second : ∀ n : Sharer, n.stage = stage → n.answer = answer → n.response = s →
      s.core.credits? ≠ none → n.Comes next later t) :
    m.Comes next later t := by
  obtain ⟨n, leads, here, told, same, metered⟩ := first
  obtain ⟨k, further, rest⟩ := second n here told same metered
  exact ⟨k, leads.trans further, rest⟩

/-- The turns lead to `next` if a frame was sent or parked, and to `failed`, with the response failed,
if it was refused. -/
def ComesBy (m : Sharer) (next failed : Stage) : Answer Unit × Response → Prop
  | (.ok (), r) => m.Comes next m.answer { m.response with core := r }
  | (.error fault, r) =>
      m.Comes failed (StreamingResponse.firstFailure m.answer (.error fault))
        { m.response with core := r.failTransport }

/-- A frame that has its credit is sent, unless the outlet is closed. -/
theorem comes_transmit {failed : Stage} (acts : m.advance = m.transmit f next failed)
    (metered : m.response.core.credits? ≠ none) :
    m.ComesBy next failed (m.response.core.transmit f) := by
  rcases m.response.core.transmit_cases f with ⟨-, o, sent, -, -⟩ | ⟨-, refused⟩
  · have goes : m.advance = { m with
        response := { m.response with core := { m.response.core with outlet := o } }
        stage := next } := by
      rw [acts, transmit, sent]
    rw [sent]
    apply Comes.of_advance
    rw [goes]
    exact comes_of_eq rfl rfl rfl metered
  · have fails : m.advance = { m.note (.error (.refused .channelClosed)) with
        response := { m.response with core := m.response.core.failTransport }
        stage := failed
        refused := m.refused + 1 } := by
      rw [acts, transmit, refused]
    rw [refused]
    apply Comes.of_advance
    rw [fails]
    refine comes_of_eq rfl rfl rfl ?_
    rw [Response.credits?_failTransport]
    exact metered

/-- A frame of a batch that has to wait is parked. -/
theorem advance_of_waits (here : m.stage = .sending none (f :: frames) isLast)
    (waits : m.response.core.backlog ≠ [] ∨
      m.response.core.credits?.bind Credits.take? = none) :
    m.advance = { m.park f with stage := .sending none frames isLast } := by
  by_cases empty : m.response.core.backlog = []
  · have exhausted : m.response.core.credits?.bind Credits.take? = none :=
      waits.resolve_left fun waiting => waiting empty
    simp only [advance, here, empty, List.isEmpty_nil, if_true, take?, exhausted]
  · simp only [advance, here, List.isEmpty_eq_false_iff.mpr empty, Bool.false_eq_true, if_false]

/-- A frame of a batch is sent, refused or parked as it is in a single step. -/
theorem comes_enqueue (here : m.stage = .sending none (f :: frames) isLast)
    (metered : m.response.core.credits? ≠ none) :
    m.ComesBy (.sending none frames isLast) .pumping (m.response.core.enqueue f) := by
  by_cases waits : m.response.core.backlog ≠ [] ∨
      m.response.core.credits?.bind Credits.take? = none
  · rw [Response.enqueue_of_waits metered f waits]
    apply Comes.of_advance
    rw [advance_of_waits here waits]
    exact comes_of_eq rfl rfl rfl metered
  · obtain ⟨empty, credit⟩ := not_or.mp waits
    replace empty := Classical.not_not.mp empty
    obtain ⟨c, taken⟩ := Option.ne_none_iff_exists'.mp credit
    let holds : Sharer := { m.mapCore (·.setCredits c) with
      stage := .sending (some f) frames isLast
      taken := m.taken + 1 }
    have acts : m.advance = holds := by
      simp only [advance, here, empty, List.isEmpty_nil, if_true, take?, taken, holds]
    have sent : holds.ComesBy (.sending none frames isLast) .pumping
        ((m.response.core.setCredits c).transmit f) :=
      comes_transmit rfl (Option.some_ne_none c)
    rw [Response.enqueue_of_taken empty taken]
    generalize (m.response.core.setCredits c).transmit f = result at sent ⊢
    obtain ⟨answer, r⟩ := result
    cases answer with
    | ok _ | error _ =>
      apply Comes.of_advance
      rw [acts]
      exact sent

/-- So are all frames of a batch, which then is over. -/
theorem comes_enqueueAll (here : m.stage = .sending none frames isLast)
    (metered : m.response.core.credits? ≠ none) :
    m.Comes .pumping
      (StreamingResponse.firstFailure m.answer (m.response.core.enqueueAll frames).1)
      { m.response with
        core := Response.closeBatch isLast (m.response.core.enqueueAll frames) } := by
  induction frames generalizing m with
  | nil =>
    have acts : m.advance = { m.mapCore fun r => if isLast then { r with state := .done } else r with
        stage := .pumping } := by
      simp only [advance, here]
    apply Comes.of_advance
    rw [acts]
    refine comes_of_eq rfl (StreamingResponse.firstFailure_ok m.answer).symm rfl ?_
    cases isLast with
    | true => exact metered
    | false => exact metered
  | cons f rest ih =>
    have first := comes_enqueue here metered
    rw [Response.enqueueAll_cons]
    revert first
    cases m.response.core.enqueue f with
    | mk answer r =>
      cases answer with
      | error fault => exact fun failed => failed
      | ok _ =>
        intro sent
        refine sent.trans fun n there told same metered => ?_
        have further := ih there (same ▸ metered)
        rw [same, told] at further
        exact further

/-- So is a batch. -/
theorem comes_openBatch {chunks : List Bytes} (here : m.stage = .pumping)
    (metered : m.response.core.credits? ≠ none) :
    (m.openBatch chunks isLast).Comes .pumping
      (StreamingResponse.firstFailure m.answer (m.response.core.sendParts chunks isLast).1)
      { m.response with core := (m.response.core.sendParts chunks isLast).2 } := by
  rcases m.openBatch_cases chunks isLast with ⟨stays, same⟩ | ⟨frames, live, cut, opens⟩
  · rw [stays, same]
    exact comes_of_eq here rfl rfl metered
  · have begun : m.response.core.begun.credits? ≠ none := by
      rw [Response.begun_eq]
      exact metered
    rw [opens, Response.sendParts_eq_closeBatch live cut]
    exact comes_enqueueAll rfl begun

/-- A report is dealt with as it is in a single step. -/
theorem comes_handle {e : ArgEvent} {queue : List ArgEvent} (here : m.stage = .pumping)
    (reported : m.response.queue = e :: queue) (metered : m.response.core.credits? ≠ none) :
    m.Comes .pumping
      (StreamingResponse.firstFailure m.answer (StreamingResponse.handle m.response.core e).1)
      { m.response with core := (StreamingResponse.handle m.response.core e).2, queue } := by
  apply Comes.of_advance
  cases e with
  | parts chunks isLast =>
    have acts : m.advance =
        openBatch { m with response := { m.response with queue } } chunks isLast := by
      simp only [advance, here, pump, reported]
    rw [acts]
    exact comes_openBatch here metered
  | error e =>
    simp only [advance, here, pump, reported]
    exact comes_of_eq rfl rfl rfl metered
  | finish =>
    simp only [advance, here, pump, reported]
    refine comes_of_eq rfl rfl rfl ?_
    show m.response.core.finish.credits? ≠ none
    rw [Response.credits?_finish]
    exact metered

/-- So is all that the argument stream has reported. -/
theorem comes_handleAll {queue : List ArgEvent} (here : m.stage = .pumping)
    (reported : m.response.queue = queue) (metered : m.response.core.credits? ≠ none) :
    m.Comes .rest (StreamingResponse.handleAll m.response.core m.answer queue).1
      (StreamingResponse.settle { m.response with
        core := (StreamingResponse.handleAll m.response.core m.answer queue).2, queue := [] }) := by
  induction queue generalizing m with
  | nil =>
    have same : { m.response with queue := [] } = m.response := by rw [← reported]
    apply Comes.of_advance
    simp only [advance, here, pump, reported]
    refine comes_of_eq rfl rfl (congrArg StreamingResponse.settle same.symm) ?_
    rw [StreamingResponse.settle_core]
    exact metered
  | cons e queue ih =>
    refine (comes_handle here reported metered).trans fun n there told same metered => ?_
    have further := ih there (by rw [same]) (same ▸ metered)
    rw [same, told] at further
    exact further

/-- Frames that wait are released as they are in a single step. -/
theorem comes_release (here : m.stage = .draining none) (metered : m.response.core.credits? ≠ none)
    (sent : Nat) : m.Comes .settling
      (StreamingResponse.firstFailure m.answer
        ((m.response.core.release sent m.response.core.backlog).1.map fun _ => ()))
      { m.response with core := (m.response.core.release sent m.response.core.backlog).2 } := by
  generalize waiting : m.response.core.backlog = backlog
  induction backlog generalizing m sent with
  | nil =>
    have same : { m.response.core with backlog := [] } = m.response.core := by rw [← waiting]
    apply Comes.of_advance
    simp only [advance, here, waiting, Response.release, same]
    exact comes_of_eq rfl (StreamingResponse.firstFailure_ok m.answer).symm rfl metered
  | cons f rest ih =>
    cases found : m.response.core.credits?.bind Credits.take? with
    | none =>
      have kept : { m.response.core with backlog := f :: rest } = m.response.core := by
        rw [← waiting]
      rw [Response.release_of_none found, kept]
      apply Comes.of_advance
      simp only [advance, here, waiting, take?, found]
      exact comes_of_eq rfl (StreamingResponse.firstFailure_ok m.answer).symm rfl metered
    | some d =>
      let next : Response := { m.response.core with credits? := some d, backlog := rest }
      let holds : Sharer := { m with
        response := { m.response with core := next }
        stage := .draining (some f)
        taken := m.taken + 1 }
      have acts : m.advance = holds := by
        simp only [advance, here, waiting, take?, found, holds, next]
        rfl
      have puts : holds.advance = holds.transmit f (.draining none) .settling := rfl
      have first := comes_transmit puts (Option.some_ne_none d)
      apply Comes.of_advance
      rw [acts]
      rcases next.transmit_cases f with ⟨-, o, sends, -, -⟩ | ⟨-, refused⟩
      · rw [sends] at first
        rw [Response.release_of_sent found sends]
        refine first.trans fun n there told same metered => ?_
        have further := ih there (same ▸ metered) (sent + 1) (by rw [same])
        rw [same, told] at further
        exact further
      · rw [refused] at first
        rw [Response.release_of_refused found refused]
        exact first

theorem comes_settling (here : m.stage = .settling) (metered : m.response.core.credits? ≠ none) :
    m.Comes .rest m.answer m.response.settle := by
  apply Comes.of_advance
  simp only [advance, here]
  refine comes_of_eq rfl rfl rfl ?_
  rw [StreamingResponse.settle_core]
  exact metered

/-- **A call that nobody interrupts comes to the same in turns as in a single step.** -/
theorem completes (here : m.stage = .rest) (metered : m.response.core.credits? ≠ none)
    {a : StreamingResponse.Action} (own : ∀ c, a ≠ .shareCredits c) :
    (m.begin a).Comes .rest (m.response.step a).1 (m.response.step a).2 := by
  have feeds (feeds : a.feeds = true)
      (acts : m.begin a = (m.response.fed? a).elim { m with answer := (m.response.step a).1 }
        fun s => { m with response := s, stage := .pumping, answer := .ok () }) :
      (m.begin a).Comes .rest (m.response.step a).1 (m.response.step a).2 := by
    have step := m.response.step_eq_of_fed? feeds
    cases fed : m.response.fed? a with
    | none =>
      rw [fed] at acts step
      rw [acts]
      exact comes_of_eq here rfl (congrArg Prod.snd step).symm
        (congrArg Prod.snd step ▸ metered)
    | some s =>
      rw [fed] at acts step
      obtain ⟨code, same⟩ := StreamingResponse.core_of_fed? fed
      rw [acts, step]
      refine comes_handleAll rfl rfl ?_
      show s.core.credits? ≠ none
      rw [same]
      exact metered
  cases a with
  | setOk | write | endArg | send => exact feeds rfl rfl
  | onDrain granted =>
    obtain ⟨c, credits⟩ := Option.ne_none_iff_exists'.mp metered
    let r := m.response.core.setCredits (c.grant granted)
    have drains : m.response.step (.onDrain granted) =
        ((r.release 0 r.backlog).1.map fun _ => (),
          StreamingResponse.settle { m.response with core := (r.release 0 r.backlog).2 }) := by
      simp only [StreamingResponse.step, StreamingResponse.onDrain, Response.onDrain, credits]
      rfl
    have begins : m.begin (.onDrain granted) = { m with
        response := { m.response with core := r }
        stage := .draining none
        answer := .ok () } := by
      rw [begin, mapCore, StreamingResponse.mapCore, Response.grantCredits_eq credits]
    rw [drains, begins]
    refine (comes_release rfl (Option.some_ne_none _) 0).trans fun n there told same metered => ?_
    have further := comes_settling there (same ▸ metered)
    rw [same, told] at further
    exact further
  | sendError code message =>
    refine comes_of_eq here rfl rfl ?_
    rcases m.response.core_sendError code message with kept | sent
    · show (m.response.sendError code message).2.core.credits? ≠ none
      rw [kept]
      exact metered
    · show (m.response.sendError code message).2.core.credits? ≠ none
      rw [sent, Response.credits?_sendError]
      exact metered
  | setSpan span => exact comes_of_eq here rfl rfl metered
  | closeOutletAfter n => exact comes_of_eq here rfl rfl metered
  | shareCredits c => exact absurd rfl (own c)

end Alone

end Sharer

end CallWire
