import CallWire.Proofs.Response.Pacing
import CallWire.Proofs.Streaming.Intact
import CallWire.Proofs.Streaming.Settled

/-!
# Calls with credits and without

A streaming response whose frames need credit is compared with itself as it would be if they needed
none. As long as the outlet is open, every call comes to the same for both (`step_unpaced`), and
granting and sharing credits are not noticed by the one that needs none (`meter_unpaced`). An error
is the same for both, except that what waits is dropped (`failAlike_unpaced`).
-/

namespace CallWire.StreamingResponse

open Response

/-- Whether a call is about credits only. -/
def Action.meters : Action → Bool
  | .onDrain _ | .shareCredits _ => true
  | _ => false

variable {s t : StreamingResponse} {a : Action}

/-- The streaming response as it would be if its frames needed no credit. -/
def unpaced (s : StreamingResponse) : StreamingResponse := s.mapCore Response.unpaced

/-- A call that comes to `paced` comes to `free` if frames need no credit. -/
structure Alike (free paced : Answer Unit × StreamingResponse) : Prop where
  same : free = (paced.1, paced.2.unpaced)
  steady : paced.2.core.Steady

theorem handle_unpaced {r : Response} (steady : r.Steady) (e : ArgEvent) :
    Response.Alike (handle r.unpaced e) (handle r e) := by
  cases e with
  | parts chunks isLast => exact sendParts_unpaced steady chunks isLast
  | error e => exact ⟨rfl, steady.orderly, steady.unlimited, steady.sound⟩
  | finish =>
    obtain ⟨same, steady⟩ := finish_unpaced steady
    exact ⟨congrArg (Prod.mk _) same, steady⟩

theorem handleAll_unpaced {r : Response} (steady : r.Steady) (answer : Answer Unit)
    (events : List ArgEvent) :
    Response.Alike (handleAll r.unpaced answer events) (handleAll r answer events) := by
  induction events generalizing r answer with
  | nil => exact ⟨rfl, steady⟩
  | cons e rest ih =>
    obtain ⟨same, steady⟩ := handle_unpaced steady e
    simp only [handleAll, same]
    exact ih steady _

/-- What the argument stream has reported is dealt with, and the response has not failed. -/
theorem pump_of_sound {answer : Answer Unit} {r : Response}
    (handled : handleAll s.core (.ok ()) s.queue = (answer, r)) (sound : r.state ≠ .error) :
    s.pump = (answer, ⟨r, s.args, []⟩) := by
  unfold pump
  rw [handled]
  exact congrArg (Prod.mk answer) (settle_of_sound sound s.args [])

theorem pump_unpaced (steady : s.core.Steady) : Alike s.unpaced.pump s.pump := by
  obtain ⟨same, steady⟩ := handleAll_unpaced steady (.ok ()) s.queue
  rw [pump_of_sound (s := s) rfl steady.sound, pump_of_sound (s := s.unpaced) same steady.sound]
  exact ⟨rfl, steady⟩

theorem foldl_unpaced (s : StreamingResponse) (actions : List ArgStream.Action) :
    actions.foldl argAction s.unpaced = (actions.foldl argAction s).unpaced := by
  rw [foldl_argAction, foldl_argAction]
  rfl

theorem act_unpaced (steady : s.core.Steady) (actions : List ArgStream.Action) :
    Alike (s.unpaced.act actions) (s.act actions) := by
  have core : (actions.foldl argAction s).core = s.core := by rw [foldl_argAction]
  unfold act
  rw [foldl_unpaced]
  exact pump_unpaced (core ▸ steady)

theorem actIfOpen_unpaced (steady : s.core.Steady) (attempted : String)
    (actions : List ArgStream.Action) :
    Alike (s.unpaced.actIfOpen attempted actions) (s.actIfOpen attempted actions) := by
  have state : s.unpaced.core.state = s.core.state := rfl
  unfold actIfOpen ensureOpen
  rw [state]
  cases s.core.state.isTerminal with
  | true => exact ⟨rfl, steady⟩
  | false => exact act_unpaced steady actions

theorem setOk_unpaced (steady : s.core.Steady) (ok : Bool) :
    Alike (s.unpaced.setOk ok) (s.setOk ok) := by
  obtain ⟨same, steady⟩ := Response.setOk_unpaced steady ok
  have core : s.unpaced.core.setOk ok = _ := same
  unfold setOk
  rw [core]
  cases h : s.core.setOk ok with
  | mk answer r =>
    rw [h] at steady
    cases answer with
    | error fault => exact ⟨rfl, steady⟩
    | ok _ => exact act_unpaced (s := { s with core := r }) steady _

/-- **A call is answered the same with credits and without,** and adds the same frames. -/
theorem step_unpaced (steady : s.core.Steady) (ordinary : Ordinary a) (plain : a.meters = false) :
    Alike (s.unpaced.step a) (s.step a) := by
  cases a with
  | setOk ok => exact setOk_unpaced steady ok
  | write arg chunk =>
    show Alike (s.unpaced.write arg chunk) (s.write arg chunk)
    unfold write
    split
    · exact ⟨rfl, steady⟩
    · exact actIfOpen_unpaced steady _ _
  | endArg arg =>
    show Alike (s.unpaced.endArg arg) (s.endArg arg)
    unfold endArg
    split
    · exact ⟨rfl, steady⟩
    · exact actIfOpen_unpaced steady _ _
  | send arg2 arg3 => exact actIfOpen_unpaced steady _ _
  | setSpan span => exact ⟨rfl, steady.orderly, steady.unlimited, steady.sound⟩
  | sendError code message => cases ordinary
  | closeOutletAfter n => cases ordinary
  | onDrain granted => cases plain
  | shareCredits c => cases plain

/-- Granting and sharing credits come to nothing where frames need none. -/
theorem meter_unpaced (steady : s.core.Steady) (meters : a.meters = true) :
    (s.step a).2.unpaced = s.unpaced ∧ (s.step a).2.core.Steady := by
  cases a with
  | onDrain granted =>
    obtain ⟨same, steady⟩ := onDrain_unpaced steady granted
    have performed : (s.step (.onDrain granted)).2 = { s with core := (s.core.onDrain granted).2 } :=
      if_neg steady.sound
    rw [performed]
    exact ⟨congrArg (StreamingResponse.mk · s.args s.queue) same, steady⟩
  | shareCredits c =>
    have metered : (s.core.setCredits c).Orderly := by
      intro unmetered
      cases unmetered
    exact ⟨rfl, metered, steady.unlimited, steady.sound⟩
  | setOk | write | endArg | send | setSpan | sendError | closeOutletAfter => cases meters

/-- An error that is sent while nothing is queued. -/
theorem sendError_of_live (live : s.core.state.isTerminal = false) (queue : s.queue = [])
    (code : ErrorCode) (message : String) : s.sendError code message =
      ((s.core.sendError code message).1,
        ⟨(s.core.sendError code message).2, s.args.finishAll, s.queue⟩) := by
  simp [sendError, ensureOpen, live, queue]

/-- What two responses have in common that are called the same, the first of which needs no
credit. -/
structure Delayed (free paced : StreamingResponse) : Prop where
  state : paced.core.state = free.core.state
  code : paced.core.code = free.core.code
  events : paced.core.events = free.core.events
  /-- What the first has sent, the second has sent or holds back. -/
  frames : free.core.outlet.sent = paced.core.outlet.sent ++ paced.core.backlog

/-- What it comes to if both send an error in time. -/
structure FailAlike (free paced : StreamingResponse)
    (freely duly : Answer Unit × StreamingResponse) : Prop where
  answers : freely.1 = .ok () ∧ duly.1 = .ok ()
  state : duly.2.core.state = freely.2.core.state
  code : duly.2.core.code = freely.2.core.code
  events : duly.2.core.events = freely.2.core.events
  /-- Both have sent the same error, the second behind a part of what the first has sent. -/
  frames : ∃ e, e.type? = some .errorResponse ∧
    freely.2.core.outlet.sent = free.core.outlet.sent ++ [e] ∧
    ∃ before, before <+: free.core.outlet.sent ∧ duly.2.core.outlet.sent = before ++ [e]

theorem failAlike_unpaced (steady : s.core.Steady) (live : s.core.state.isTerminal = false)
    (queue : s.queue = []) (code : ErrorCode) (message : String) :
    FailAlike s.unpaced s (s.unpaced.step (.sendError code message))
      (s.step (.sendError code message)) := by
  obtain ⟨r, paced, sent, free⟩ := sendError_unpaced steady live code message
  have first : s.unpaced.step (.sendError code message) = _ :=
    sendError_of_live (s := s.unpaced) live queue code message
  have second : s.step (.sendError code message) = _ := sendError_of_live live queue code message
  have core : s.unpaced.core = s.core.unpaced := rfl
  rw [core, free] at first
  rw [paced] at second
  rw [first, second]
  refine ⟨⟨rfl, rfl⟩, rfl, rfl, rfl, s.core.errorFrame code message, rfl, ?_, ?_⟩
  · exact List.reverse_cons
  · refine ⟨s.core.outlet.sent, ?_, sent⟩
    rw [core, sent_unpaced]
    exact List.prefix_append _ _

theorem unpaced_make {id : UInt32} {config : ResponseConfig} (made : make id config = .ok s) :
    make id { config with initialCredits? := none } = .ok s.unpaced ∧ s.core.Steady := by
  obtain ⟨valid, rfl⟩ := make_eq_ok_iff.mp made
  exact ⟨make_eq_ok_iff.mpr ⟨valid, rfl⟩, steady_fresh id config⟩

end CallWire.StreamingResponse
