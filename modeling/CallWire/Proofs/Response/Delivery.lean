import CallWire.Response

/-!
# How frames leave a response

The stream of a response is what it has sent followed by what waits. Sending or parking a frame
adds it at the end of the stream, whatever the credits (`Delivers`); granting credits moves frames
from the backlog to the outlet and leaves the stream as it is. Both can find the outlet closed, and
then the stream ends with the last frame that was taken.

* `enqueueAll_ok`, `enqueueAll_error`: frames that come together;
* `release_ok`, `release_error`: frames that have waited;
* `partsSent`, `drained`: what the operations that send frames can come to.
-/

namespace CallWire

namespace Outlet

theorem put?_eq_some_iff {o p : Outlet} {f : Frame} :
    o.put? f = some p ↔ o.isOpen = true ∧ p = ⟨f :: o.taken, o.room?.map (· - 1)⟩ := by
  unfold put?
  split
  · rename_i isOpen
    simp [isOpen, eq_comm]
  · rename_i closed
    simp [closed]

theorem put?_eq_none_iff {o : Outlet} {f : Frame} : o.put? f = none ↔ o.isOpen = false := by
  unfold put?
  split
  · rename_i isOpen
    simp [isOpen]
  · rename_i closed
    simp [closed]

theorem isOpen_closeAfter {o : Outlet} (closed : o.isOpen = false) (n : Nat) :
    (o.closeAfter n).isOpen = false := by
  have room : o.room? = some 0 := by simpa [isOpen] using closed
  simp [isOpen, closeAfter, room]

end Outlet

namespace Response

variable {r s t : Response}

/-- A response on which nothing has been done. -/
def fresh (id : UInt32) (config : ResponseConfig) : Response where
  id := id
  state := .initial
  code := CallResponse.ok
  config := config
  span? := none
  credits? := config.initialCredits?.map Credits.mk
  backlog := []
  finished := false
  outlet := .fresh
  events := []

theorem make_eq_ok_iff {id : UInt32} {config : ResponseConfig} :
    make id config = .ok r ↔ config.validate = .ok () ∧ r = fresh id config := by
  unfold make
  split
  · rename_i e invalid
    simp [invalid]
  · rename_i valid
    simp only [valid, true_and, Except.ok.injEq]
    exact eq_comm

/-- What has been sent and what waits, in order. -/
def stream (r : Response) : List Frame := r.outlet.sent ++ r.backlog

/-- Nothing waits unless frames need credit. -/
def Orderly (r : Response) : Prop := r.credits? = none → r.backlog = []

/-- From `r` to `s`, `frames` were added to the stream and nothing but sending took place. -/
structure Delivers (r : Response) (frames : List Frame) (s : Response) : Prop where
  same : s = { r with credits? := s.credits?, backlog := s.backlog, outlet := s.outlet }
  stream : s.stream = r.stream ++ frames
  grown : r.outlet.sent <+: s.outlet.sent
  unlimited : r.outlet.room? = none → s.outlet.room? = none
  closed : r.outlet.isOpen = false → s.outlet = r.outlet
  orderly : s.Orderly

namespace Delivers

theorem refl (orderly : r.Orderly) : Delivers r [] r where
  same := rfl
  stream := (List.append_nil _).symm
  grown := List.prefix_rfl
  unlimited := fun unlimited => unlimited
  closed := fun _ => rfl
  orderly := orderly

theorem trans {front back : List Frame} (first : Delivers r front s) (second : Delivers s back t) :
    Delivers r (front ++ back) t where
  same := by
    rw [second.same, first.same]
  stream := by rw [second.stream, first.stream, List.append_assoc]
  grown := first.grown.trans second.grown
  unlimited := second.unlimited ∘ first.unlimited
  closed := by
    intro closed
    have same := first.closed closed
    rw [second.closed (same ▸ closed), same]
  orderly := second.orderly

variable {frames : List Frame}

theorem id_eq (d : Delivers r frames s) : s.id = r.id := by rw [d.same]

theorem state_eq (d : Delivers r frames s) : s.state = r.state := by rw [d.same]

theorem config_eq (d : Delivers r frames s) : s.config = r.config := by rw [d.same]

theorem finished_eq (d : Delivers r frames s) : s.finished = r.finished := by rw [d.same]

theorem events_eq (d : Delivers r frames s) : s.events = r.events := by rw [d.same]

end Delivers

/-- The outlet has refused a frame, and nothing waits behind it. -/
def Blocked (r : Response) : Prop := r.outlet.isOpen = false ∧ r.backlog = []

theorem transmit_cases (r : Response) (f : Frame) :
    (r.outlet.isOpen = true ∧
      ∃ o, r.transmit f = (.ok (), { r with outlet := o }) ∧ o.sent = r.outlet.sent ++ [f] ∧
        (r.outlet.room? = none → o.room? = none)) ∨
    (r.outlet.isOpen = false ∧ r.transmit f = (.error (.refused .channelClosed), r)) := by
  unfold transmit
  split
  · rename_i o put
    obtain ⟨isOpen, rfl⟩ := Outlet.put?_eq_some_iff.mp put
    exact Or.inl ⟨isOpen, _, rfl, Outlet.sent_put? put, fun unlimited => by simp [unlimited]⟩
  · rename_i put
    exact Or.inr ⟨Outlet.put?_eq_none_iff.mp put, rfl⟩

/-- A frame that goes out at once, with nothing waiting, ends the stream. -/
theorem transmit_ok {f : Frame} {c : Option Credits} (empty : r.backlog = [])
    (h : { r with credits? := c }.transmit f = (.ok (), s)) : Delivers r [f] s := by
  rcases transmit_cases { r with credits? := c } f with ⟨isOpen, o, done, sent, room⟩ | ⟨-, refused⟩
  · rw [done] at h
    cases h
    refine ⟨rfl, ?_, ⟨[f], sent.symm⟩, room, ?_, fun _ => empty⟩
    · simp [stream, sent, empty]
    · intro closed
      exact absurd (isOpen.symm.trans closed) (by simp)
  · rw [refused] at h
    cases h

theorem transmit_error {f : Frame} {c : Option Credits} {fault : Fault ResponseError}
    (empty : r.backlog = []) (h : { r with credits? := c }.transmit f = (.error fault, s)) :
    fault = .refused .channelClosed ∧ Delivers r [] s ∧ s.Blocked := by
  rcases transmit_cases { r with credits? := c } f with ⟨-, o, done, -, -⟩ | ⟨closed, refused⟩
  · rw [done] at h
    cases h
  · rw [refused] at h
    cases h
    refine ⟨rfl, ⟨rfl, ?_, List.prefix_rfl, fun unlimited => unlimited, fun _ => rfl, fun _ => empty⟩,
      closed, empty⟩
    exact (List.append_nil _).symm

theorem enqueue_ok {f : Frame} (orderly : r.Orderly) (h : r.enqueue f = (.ok (), s)) :
    Delivers r [f] s := by
  unfold enqueue at h
  cases metered : r.credits? with
  | none =>
    rw [metered] at h
    exact transmit_ok (orderly metered) h
  | some c =>
    rw [metered] at h
    have parks (b : List Frame) (hb : b = r.backlog ++ [f]) :
        Delivers r [f] { r with credits? := some c, backlog := b } := by
      refine ⟨rfl, ?_, List.prefix_rfl, fun unlimited => unlimited, fun _ => rfl, fun unmetered => by cases unmetered⟩
      simp [stream, hb]
    simp only at h
    split at h
    · rename_i empty
      have empty := List.isEmpty_iff.mp empty
      split at h
      · exact transmit_ok empty h
      · cases h
        exact parks [f] (by rw [empty]; rfl)
    · cases h
      exact parks _ rfl

theorem enqueue_error {f : Frame} {fault : Fault ResponseError} (orderly : r.Orderly)
    (h : r.enqueue f = (.error fault, s)) :
    fault = .refused .channelClosed ∧ Delivers r [] s ∧ s.Blocked := by
  unfold enqueue at h
  cases metered : r.credits? with
  | none =>
    rw [metered] at h
    exact transmit_error (orderly metered) h
  | some c =>
    rw [metered] at h
    simp only at h
    split at h
    · rename_i empty
      split at h
      · exact transmit_error (List.isEmpty_iff.mp empty) h
      · cases h
    · cases h

theorem enqueueAll_ok {frames : List Frame} (orderly : r.Orderly)
    (h : r.enqueueAll frames = (.ok (), s)) : Delivers r frames s := by
  induction frames generalizing r with
  | nil =>
    cases h
    exact .refl orderly
  | cons f rest ih =>
    rw [enqueueAll_cons] at h
    split at h
    · rename_i t done
      have first := enqueue_ok orderly done
      exact first.trans (ih first.orderly h)
    · cases h

/-- If the outlet closes, what was delivered lacks at least the last frame. -/
theorem enqueueAll_error {frames : List Frame} {fault : Fault ResponseError} (orderly : r.Orderly)
    (h : r.enqueueAll frames = (.error fault, s)) :
    fault = .refused .channelClosed ∧ s.Blocked ∧
      ∃ front f back, frames = front ++ f :: back ∧ Delivers r front s := by
  induction frames generalizing r with
  | nil => cases h
  | cons f rest ih =>
    rw [enqueueAll_cons] at h
    split at h
    · rename_i t done
      have first := enqueue_ok orderly done
      obtain ⟨same, blocked, front, g, back, rfl, further⟩ := ih first.orderly h
      exact ⟨same, blocked, f :: front, g, back, rfl, first.trans further⟩
    · rename_i refused t failed
      cases h
      obtain ⟨same, unmoved, blocked⟩ := enqueue_error orderly failed
      exact ⟨same, blocked, [], f, rest, rfl, unmoved⟩

/-- The first frame of those that wait goes out, whatever is behind it. -/
theorem transmit_waiting {f : Frame} {rest : List Frame} {c : Credits}
    (h : { r with credits? := some c, backlog := rest }.transmit f = (.ok (), s))
    (behind : List Frame) :
    Delivers { r with backlog := f :: behind } [] { s with backlog := behind } ∧
      s.backlog = rest ∧ s.credits? ≠ none := by
  rcases transmit_cases { r with credits? := some c, backlog := rest } f with
    ⟨isOpen, o, done, sent, room⟩ | ⟨-, refused⟩
  · rw [done] at h
    cases h
    refine ⟨⟨rfl, ?_, ⟨[f], sent.symm⟩, room, ?_, ?_⟩, rfl, ?_⟩
    · simp [stream, sent]
    · intro closed
      exact absurd (isOpen.symm.trans closed) (by simp)
    · intro unmetered
      cases unmetered
    · intro unmetered
      cases unmetered
  · rw [refused] at h
    cases h

theorem release_ok {sent total : Nat} {waiting : List Frame} (metered : r.credits? ≠ none)
    (h : r.release sent waiting = (.ok total, s)) :
    Delivers { r with backlog := waiting } [] s ∧ s.backlog <:+ waiting := by
  induction waiting generalizing r sent with
  | nil =>
    cases h
    exact ⟨.refl fun _ => rfl, List.suffix_rfl⟩
  | cons f rest ih =>
    unfold release at h
    split at h
    · cases h
      exact ⟨.refl fun unmetered => absurd unmetered metered, List.suffix_rfl⟩
    · split at h
      · rename_i t done
        obtain ⟨first, rfl, metered⟩ := transmit_waiting done rest
        obtain ⟨further, suffix⟩ := ih metered h
        exact ⟨first.trans further, suffix.trans (List.suffix_cons f _)⟩
      · cases h

/-- If the outlet closes, the frames that were still to be sent are dropped. -/
theorem release_error {sent : Nat} {waiting : List Frame} {fault : Fault ResponseError}
    (h : r.release sent waiting = (.error fault, s)) :
    fault = .refused .channelClosed ∧ ∃ front f back t, waiting = front ++ f :: back ∧
      Delivers { r with backlog := front } [] t ∧ t.Blocked ∧ s = t.failTransport := by
  induction waiting generalizing r sent with
  | nil => cases h
  | cons f rest ih =>
    unfold release at h
    split at h
    · cases h
    · rename_i c taken
      split at h
      · rename_i t done
        obtain ⟨same, front, g, back, u, rfl, further, blocked, rfl⟩ := ih h
        obtain ⟨first, -, -⟩ := transmit_waiting done front
        exact ⟨same, f :: front, g, back, u, rfl, first.trans further, blocked, rfl⟩
      · rename_i refused t failed
        rcases transmit_cases { r with credits? := some c, backlog := rest } f with
          ⟨-, o, done, -, -⟩ | ⟨closed, kept⟩
        · rw [done] at failed
          cases failed
        · rw [kept] at failed
          cases failed
          cases h
          refine ⟨rfl, [], f, rest, { r with credits? := some c, backlog := [] }, rfl, ?_,
            ⟨closed, rfl⟩, rfl⟩
          exact ⟨rfl, (List.append_nil _).symm, List.prefix_rfl, fun unlimited => unlimited, fun _ => rfl,
            fun _ => rfl⟩

/-- Nothing changes about the frames of a response, although its outlet may close. -/
structure Keeps (r s : Response) : Prop where
  id : s.id = r.id
  state : s.state = r.state
  config : s.config = r.config
  sent : s.outlet.sent = r.outlet.sent
  backlog : s.backlog = r.backlog
  closed : r.outlet.isOpen = false → s.outlet.isOpen = false
  orderly : r.Orderly → s.Orderly

theorem Keeps.stream (k : Keeps r s) : s.stream = r.stream := by
  rw [Response.stream, k.sent, k.backlog, Response.stream]

theorem keeps_finish (r : Response) : Keeps r r.finish := by
  unfold finish
  split
  · exact ⟨rfl, rfl, rfl, rfl, rfl, fun h => h, fun h => h⟩
  · exact ⟨rfl, rfl, rfl, rfl, rfl, fun h => h, fun h => h⟩

/-- The response after its outlet has refused a frame, before its observer is told. -/
def cutOff (r : Response) : Response :=
  { r with state := if r.state.isTerminal then r.state else .error, backlog := [] }

theorem failTransport_eq (r : Response) : r.failTransport = r.cutOff.finish := rfl

theorem state_failTransport (r : Response) :
    r.failTransport.state = if r.state.isTerminal then r.state else .error :=
  (keeps_finish r.cutOff).state

theorem isTerminal_failTransport (r : Response) : r.failTransport.state.isTerminal = true := by
  rw [state_failTransport]
  split
  · assumption
  · rfl

/-- What granting credits can come to. -/
inductive Drained (r : Response) : Answer Nat × Response → Prop where
  | unmetered (free : r.credits? = none) : Drained r (.ok 0, r)
  | released {total : Nat} {s : Response} (delivered : Delivers r [] s)
      (left : s.backlog <:+ r.backlog) : Drained r (.ok total, s)
  | broken {front back : List Frame} {f : Frame} {t : Response}
      (waiting : r.backlog = front ++ f :: back)
      (delivered : Delivers { r with backlog := front } [] t) (blocked : t.Blocked) :
      Drained r (.error (.refused .channelClosed), t.failTransport)

theorem drained (r : Response) (granted : UInt32) : Drained r (r.onDrain granted) := by
  unfold onDrain
  split
  · rename_i free
    exact .unmetered free
  · rename_i c metered
    cases h : { r with credits? := some (c.grant granted) }.release 0 r.backlog with
    | mk answer s =>
      cases answer with
      | ok total =>
        obtain ⟨delivered, left⟩ := release_ok (fun unmetered => by cases unmetered) h
        exact .released ⟨delivered.same, delivered.stream, delivered.grown, delivered.unlimited,
          delivered.closed, delivered.orderly⟩ left
      | error fault =>
        obtain ⟨rfl, front, f, back, t, waiting, delivered, blocked, rfl⟩ := release_error h
        exact .broken waiting ⟨delivered.same, delivered.stream, delivered.grown,
          delivered.unlimited, delivered.closed, delivered.orderly⟩ blocked

/-- The response when its first frame is about to leave. -/
def begun (r : Response) : Response :=
  if r.state = .initial then { r with state := .started }.noteSend else r

/-- What sending a batch of parts can come to. -/
inductive PartsSent (r : Response) (parts : List Bytes) (isLast : Bool) :
    Answer Unit × Response → Prop where
  | ended (terminal : r.state.isTerminal = true) :
      PartsSent r parts isLast (.error (.refused (.alreadyDone "send call response frame")), r)
  | uncut {fault : Fault FrameError} (live : r.state.isTerminal = false)
      (uncut : r.fragment parts isLast (r.state = .initial) = .error fault) :
      PartsSent r parts isLast (Answer.ofOutcome (.error fault), r)
  | sent {frames : List Frame} {s : Response} (live : r.state.isTerminal = false)
      (cut : r.fragment parts isLast (r.state = .initial) = .ok frames)
      (delivered : Delivers r.begun frames s) :
      PartsSent r parts isLast (.ok (), if isLast then { s with state := .done } else s)
  | broken {front back : List Frame} {f : Frame} {s : Response} (live : r.state.isTerminal = false)
      (cut : r.fragment parts isLast (r.state = .initial) = .ok (front ++ f :: back))
      (delivered : Delivers r.begun front s) (blocked : s.Blocked) :
      PartsSent r parts isLast (.error (.refused .channelClosed), s.failTransport)

/-- Nothing but the state and the span changes. -/
theorem begun_eq (r : Response) :
    r.begun = { r with state := r.begun.state, span? := r.begun.span? } := by
  unfold begun
  split
  · rfl
  · rfl

theorem begun_stream (r : Response) : r.begun.stream = r.stream := by
  rw [begun_eq]
  rfl

theorem begun_id (r : Response) : r.begun.id = r.id := by rw [begun_eq]

theorem begun_config (r : Response) : r.begun.config = r.config := by rw [begun_eq]

theorem begun_outlet (r : Response) : r.begun.outlet = r.outlet := by rw [begun_eq]

theorem begun_finished (r : Response) : r.begun.finished = r.finished := by rw [begun_eq]

theorem begun_events (r : Response) : r.begun.events = r.events := by rw [begun_eq]

theorem begun_state (live : r.state.isTerminal = false) : r.begun.state = .started := by
  unfold begun
  split
  · rfl
  · rename_i later
    cases state : r.state with
    | initial => exact absurd state later
    | started => rfl
    | error | done =>
      rw [state] at live
      cases live

theorem orderly_begun (orderly : r.Orderly) : r.begun.Orderly := by
  rw [begun_eq]
  exact orderly

theorem partsSent (orderly : r.Orderly) (parts : List Bytes) (isLast : Bool) :
    PartsSent r parts isLast (r.sendParts parts isLast) := by
  unfold sendParts ensureOpen
  cases terminal : r.state.isTerminal with
  | true => exact .ended terminal
  | false =>
    simp only [Bool.false_eq_true, if_false]
    cases cut : r.fragment parts isLast (r.state = .initial) with
    | error fault => exact .uncut terminal cut
    | ok frames =>
      have begins : (if r.state = .initial then { r with state := .started }.noteSend else r) =
          r.begun := rfl
      simp only [begins]
      cases h : r.begun.enqueueAll frames with
      | mk answer s =>
        cases answer with
        | ok _ => exact .sent terminal cut (enqueueAll_ok (orderly_begun orderly) h)
        | error fault =>
          obtain ⟨rfl, blocked, front, f, back, rfl, delivered⟩ :=
            enqueueAll_error (orderly_begun orderly) h
          exact .broken terminal cut delivered blocked

/-- What sending an error can come to. -/
inductive ErrorSent (r : Response) (code : ErrorCode) (message : String) :
    Answer Unit × Response → Prop where
  | ended (terminal : r.state.isTerminal = true) :
      ErrorSent r code message (.error (.refused (.alreadyDone (errorAttempt code message))), r)
  | sent {o : Outlet} (live : r.state.isTerminal = false) (isOpen : r.outlet.isOpen = true)
      (taken : o.sent = r.outlet.sent ++ [r.errorFrame code message]) :
      ErrorSent r code message
        (.ok (), ({ r.noteSend with state := .error, backlog := [], outlet := o }.tell
          (.errored code message)).finish)
  | lost (live : r.state.isTerminal = false) (closed : r.outlet.isOpen = false) :
      ErrorSent r code message
        (.error (.refused .channelClosed), ({ r.noteSend with state := .error, backlog := [] }.tell
          (.errored code message)).finish)

theorem errorFrame_noteSend (r : Response) (code : ErrorCode) (message : String) :
    errorFrame { r.noteSend with state := .error, backlog := [] } code message =
      r.errorFrame code message := by
  unfold errorFrame noteSend tracing
  cases r.span? with
  | none => rfl
  | some span => rfl

theorem errorSent (r : Response) (code : ErrorCode) (message : String) :
    ErrorSent r code message (r.sendError code message) := by
  unfold sendError ensureOpen
  cases terminal : r.state.isTerminal with
  | true => exact .ended terminal
  | false =>
    simp only [Bool.false_eq_true, if_false, errorFrame_noteSend]
    rcases transmit_cases { r.noteSend with state := .error, backlog := [] }
      (r.errorFrame code message) with ⟨isOpen, o, done, taken, -⟩ | ⟨closed, refused⟩
    · rw [done]
      exact .sent terminal isOpen taken
    · rw [refused]
      exact .lost terminal closed

theorem orderly_drained {result : Answer Nat × Response} (orderly : r.Orderly)
    (h : Drained r result) : result.2.Orderly := by
  cases h with
  | unmetered free => exact orderly
  | released d left => exact d.orderly
  | broken waiting d blocked => exact (keeps_finish _).orderly fun _ => rfl

theorem orderly_partsSent {parts : List Bytes} {isLast : Bool} {result : Answer Unit × Response}
    (orderly : r.Orderly) (h : PartsSent r parts isLast result) : result.2.Orderly := by
  cases h with
  | ended terminal => exact orderly
  | uncut live uncut => exact orderly
  | sent live cut d =>
    cases isLast with
    | true => exact d.orderly
    | false => exact d.orderly
  | broken live cut d blocked => exact (keeps_finish _).orderly fun _ => rfl

theorem orderly_errorSent {code : ErrorCode} {message : String} {result : Answer Unit × Response}
    (orderly : r.Orderly) (h : ErrorSent r code message result) : result.2.Orderly := by
  cases h with
  | ended terminal => exact orderly
  | sent live isOpen taken => exact (keeps_finish _).orderly fun _ => rfl
  | lost live closed => exact (keeps_finish _).orderly fun _ => rfl

end Response

end CallWire
