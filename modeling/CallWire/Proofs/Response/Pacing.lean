import CallWire.Proofs.Response.Carrying

/-!
# Credits delay frames and change nothing else

A response whose frames need credit is compared with itself as it would be if they needed none
(`unpaced`): what waits has been sent, and all else is the same. As long as the outlet is open,
every operation comes to the same for both. The operations that are about credits only are not even
noticed by the response that needs none.

* `sendParts_unpaced`, `setOk_unpaced`, `finish_unpaced`: what both notice;
* `onDrain_unpaced`: what only moves frames from the backlog to the outlet;
* `sendError_unpaced`: an error, which is all that is sent of what waits.
-/

namespace CallWire.Response

variable {r s : Response} {frames : List Frame}

/-- The response as it would be if its frames needed no credit. -/
def unpaced (r : Response) : Response :=
  { r with
    config := { r.config with initialCredits? := none }
    credits? := none
    backlog := []
    outlet := ⟨r.stream.reverse, r.outlet.room?⟩ }

theorem sent_unpaced (r : Response) : r.unpaced.outlet.sent = r.stream := List.reverse_reverse _

/-- The response has not failed, and its outlet stays open. -/
structure Steady (r : Response) : Prop where
  orderly : r.Orderly
  unlimited : r.outlet.room? = none
  sound : r.state ≠ .error

theorem steady_fresh (id : UInt32) (config : ResponseConfig) : (fresh id config).Steady where
  orderly := fun _ => rfl
  unlimited := rfl
  sound := by
    intro failed
    cases failed

/-- An operation that comes to `paced` comes to `free` if frames need no credit: its answer is the
same, and the frames that have been sent are those that have been sent or wait. -/
structure Alike (free paced : Answer Unit × Response) : Prop where
  same : free = (paced.1, paced.2.unpaced)
  steady : paced.2.Steady

/-- Frames that need no credit go out as they come. -/
theorem enqueueAll_free (free : r.credits? = none) (unlimited : r.outlet.room? = none)
    (frames : List Frame) : r.enqueueAll frames =
      (.ok (), { r with outlet := ⟨frames.reverse ++ r.outlet.taken, none⟩ }) := by
  induction frames generalizing r with
  | nil =>
    rw [← unlimited]
    rfl
  | cons f rest ih =>
    have put : r.outlet.put? f = some ⟨f :: r.outlet.taken, none⟩ :=
      Outlet.put?_eq_some_iff.mpr ⟨isOpen_of_unlimited unlimited, by simp [unlimited]⟩
    have first : r.enqueue f = (.ok (), { r with outlet := ⟨f :: r.outlet.taken, none⟩ }) := by
      simp only [enqueue, free, transmit, put]
    have later := ih (r := { r with outlet := ⟨f :: r.outlet.taken, none⟩ }) free rfl
    simp only [enqueueAll_cons, first, later, List.reverse_cons, List.append_assoc,
      List.singleton_append]

/-- With an open outlet, frames that come together are all sent or parked. -/
theorem Steady.delivers (steady : r.Steady) (frames : List Frame) :
    ∃ s, r.enqueueAll frames = (.ok (), s) ∧ Delivers r frames s := by
  cases h : r.enqueueAll frames with
  | mk answer s =>
    cases answer with
    | ok _ => exact ⟨s, rfl, enqueueAll_ok steady.orderly h⟩
    | error fault =>
      obtain ⟨-, blocked, front, f, back, -, d⟩ := enqueueAll_error steady.orderly h
      exact absurd blocked (not_blocked (d.unlimited steady.unlimited))

theorem Steady.of_delivers (steady : r.Steady) (d : Delivers r frames s) : s.Steady where
  orderly := d.orderly
  unlimited := d.unlimited steady.unlimited
  sound := d.state_eq ▸ steady.sound

/-- What is delivered has been sent, as far as a response without credits goes. -/
theorem unpaced_of_delivers (unlimited : r.outlet.room? = none) (d : Delivers r frames s) :
    s.unpaced =
      { r.unpaced with outlet := ⟨frames.reverse ++ r.unpaced.outlet.taken, none⟩ } := by
  calc s.unpaced
      = unpaced { r with credits? := s.credits?, backlog := s.backlog, outlet := s.outlet } :=
        congrArg unpaced d.same
    _ = { r.unpaced with outlet := ⟨s.stream.reverse, s.outlet.room?⟩ } := rfl
    _ = _ := by
      rw [d.stream, d.unlimited unlimited, List.reverse_append]
      rfl

theorem begun_unpaced (r : Response) : r.unpaced.begun = r.begun.unpaced := by
  have state : r.unpaced.state = r.state := rfl
  unfold begun
  rw [state]
  split
  · rfl
  · rfl

theorem Steady.begun (steady : r.Steady) (live : r.state.isTerminal = false) :
    r.begun.Steady where
  orderly := orderly_begun steady.orderly
  unlimited := by rw [begun_outlet, steady.unlimited]
  sound := by
    rw [begun_state live]
    decide

/-- Frames that come together are delivered without credits as they are with them. -/
theorem enqueueAll_unpaced (steady : r.Steady) (frames : List Frame) :
    ∃ s, r.enqueueAll frames = (.ok (), s) ∧ s.Steady ∧
      r.unpaced.enqueueAll frames = (.ok (), s.unpaced) := by
  obtain ⟨s, done, d⟩ := steady.delivers frames
  refine ⟨s, done, steady.of_delivers d, ?_⟩
  have free := enqueueAll_free (r := r.unpaced) rfl steady.unlimited frames
  rw [unpaced_of_delivers steady.unlimited d]
  exact free

/-- A batch that can be cut is sent or parked, and ends the response if it is the last. -/
theorem sendParts_of_cut {parts : List Bytes} {isLast : Bool} (live : r.state.isTerminal = false)
    (cut : r.fragment parts isLast (r.state = .initial) = .ok frames)
    (done : r.begun.enqueueAll frames = (.ok (), s)) :
    r.sendParts parts isLast = (.ok (), if isLast then { s with state := .done } else s) := by
  have begins : (if r.state = .initial then { r with state := .started }.noteSend else r) =
      r.begun := rfl
  simp [sendParts, ensureOpen, live, cut, begins, done]

/-- A batch that cannot be cut is refused, and leaves the response as it is. -/
theorem sendParts_of_uncut {parts : List Bytes} {isLast : Bool} {fault : Fault FrameError}
    (live : r.state.isTerminal = false)
    (uncut : r.fragment parts isLast (r.state = .initial) = .error fault) :
    r.sendParts parts isLast = (Answer.ofOutcome (.error fault), r) := by
  simp [sendParts, ensureOpen, live, uncut]

/-- Without credits, the frames of a batch go out as they come. -/
theorem sendParts_free {parts : List Bytes} {isLast : Bool} (unlimited : r.outlet.room? = none)
    (live : r.state.isTerminal = false)
    (cut : r.fragment parts isLast (r.state = .initial) = .ok frames) :
    r.unpaced.sendParts parts isLast = (.ok (), unpaced { r.begun with
      state := if isLast then .done else r.begun.state
      backlog := r.begun.backlog ++ frames }) := by
  have room : r.begun.outlet.room? = none := by rw [begun_outlet, unlimited]
  have done : r.unpaced.begun.enqueueAll frames =
      (.ok (), unpaced { r.begun with backlog := r.begun.backlog ++ frames }) := by
    rw [begun_unpaced, enqueueAll_free (r := r.begun.unpaced) rfl room]
    simp [unpaced, stream, room]
  rw [sendParts_of_cut (r := r.unpaced) live cut done]
  cases isLast with
  | true => rfl
  | false => rfl

/-- **A batch is answered the same with credits and without,** and adds the same frames. -/
theorem sendParts_unpaced (steady : r.Steady) (parts : List Bytes) (isLast : Bool) :
    Alike (r.unpaced.sendParts parts isLast) (r.sendParts parts isLast) := by
  cases terminal : r.state.isTerminal with
  | true =>
    have refused (r : Response) (terminal : r.state.isTerminal = true) :
        r.sendParts parts isLast =
          (.error (.refused (.alreadyDone "send call response frame")), r) := by
      simp [sendParts, ensureOpen, terminal]
    rw [refused r terminal, refused r.unpaced terminal]
    exact ⟨rfl, steady⟩
  | false =>
    cases cut : r.fragment parts isLast (r.state = .initial) with
    | error fault =>
      rw [sendParts_of_uncut terminal cut, sendParts_of_uncut (r := r.unpaced) terminal cut]
      exact ⟨rfl, steady⟩
    | ok frames =>
      obtain ⟨s, done, after, free⟩ := enqueueAll_unpaced (steady.begun terminal) frames
      rw [← begun_unpaced] at free
      rw [sendParts_of_cut terminal cut done, sendParts_of_cut (r := r.unpaced) terminal cut free]
      cases isLast with
      | true => exact ⟨rfl, after.orderly, after.unlimited, fun failed => by cases failed⟩
      | false => exact ⟨rfl, after⟩

theorem setOk_unpaced (steady : r.Steady) (ok : Bool) :
    Alike (r.unpaced.setOk ok) (r.setOk ok) := by
  have state : r.unpaced.state = r.state := rfl
  unfold setOk
  rw [state]
  split
  · exact ⟨rfl, steady.orderly, steady.unlimited, steady.sound⟩
  · exact ⟨rfl, steady⟩

theorem finish_unpaced (steady : r.Steady) :
    r.unpaced.finish = r.finish.unpaced ∧ r.finish.Steady := by
  have state : r.unpaced.state = r.state := rfl
  have finished : r.unpaced.finished = r.finished := rfl
  unfold finish
  rw [state, finished]
  split
  · exact ⟨rfl, steady.orderly, steady.unlimited, steady.sound⟩
  · exact ⟨rfl, steady⟩

/-- Granting credits moves frames that would have been sent without them, and nothing else. -/
theorem onDrain_unpaced (steady : r.Steady) (granted : UInt32) :
    (r.onDrain granted).2.unpaced = r.unpaced ∧ (r.onDrain granted).2.Steady := by
  have drained := drained r granted
  generalize r.onDrain granted = result at drained
  cases drained with
  | unmetered free => exact ⟨rfl, steady⟩
  | released d left =>
    refine ⟨?_, steady.of_delivers d⟩
    rw [unpaced_of_delivers steady.unlimited d, ← steady.unlimited]
    rfl
  | broken waiting d blocked => exact absurd blocked (not_blocked (d.unlimited steady.unlimited))

/-- An error that is sent while the outlet is open. -/
theorem sendError_open (live : r.state.isTerminal = false) (unlimited : r.outlet.room? = none)
    (code : ErrorCode) (message : String) : r.sendError code message =
      (.ok (), ({ r.noteSend with
        state := .error
        backlog := []
        outlet := ⟨r.errorFrame code message :: r.outlet.taken, none⟩ }.tell
          (.errored code message)).finish) := by
  have put : r.outlet.put? (r.errorFrame code message) =
      some ⟨r.errorFrame code message :: r.outlet.taken, none⟩ :=
    Outlet.put?_eq_some_iff.mpr ⟨isOpen_of_unlimited unlimited, by simp [unlimited]⟩
  have sent : transmit { r.noteSend with state := .error, backlog := [] }
      (r.errorFrame code message) = (.ok (), { r.noteSend with
        state := .error
        backlog := []
        outlet := ⟨r.errorFrame code message :: r.outlet.taken, none⟩ }) := by
    have outlet : r.noteSend.outlet = r.outlet := rfl
    simp only [transmit, outlet, put]
  unfold sendError ensureOpen
  simp only [live, Bool.false_eq_true, if_false, errorFrame_noteSend, sent]

/-- **An error is the same with credits and without,** except that what waits is dropped. -/
theorem sendError_unpaced (steady : r.Steady) (live : r.state.isTerminal = false)
    (code : ErrorCode) (message : String) :
    ∃ s, r.sendError code message = (.ok (), s) ∧
      s.outlet.sent = r.outlet.sent ++ [r.errorFrame code message] ∧
      r.unpaced.sendError code message = (.ok (),
        { s.unpaced with outlet := ⟨r.errorFrame code message :: r.unpaced.outlet.taken, none⟩ }) := by
  refine ⟨_, sendError_open live steady.unlimited code message, ?_, ?_⟩
  · rw [(keeps_finish _).sent]
    simp [Outlet.sent, tell]
  · have frame : r.unpaced.errorFrame code message = r.errorFrame code message := rfl
    have terminal : ResponseState.error.isTerminal = true := rfl
    rw [sendError_open (r := r.unpaced) live steady.unlimited code message, frame]
    cases told : r.finished with
    | true => simp [finish, tell, noteSend, unpaced, told]
    | false => simp [finish, tell, noteSend, unpaced, told, terminal]

end CallWire.Response
