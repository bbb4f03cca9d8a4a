import CallWire.Proofs.Sharing.Turns
import CallWire.Proofs.Streaming.Pacing

/-!
# Interrupted calls

Others who share the credits of a response may take some, or be granted some, between any two turns
of a call. As long as the outlet is open, no turn changes what the call would come to if the rest of
it were carried out at once and without credits (`completion`), whoever takes the turn. So an
interrupted call is answered as without credits, and adds the same frames (`Amid.alike`).
-/

namespace CallWire

/-- Whether the reports of the argument stream are still being dealt with. -/
def Stage.isFeeding : Stage → Bool
  | pumping | sending _ _ _ => true
  | rest | draining _ | settling => false

namespace Sharer

open StreamingResponse (handle handleAll firstFailure)

/-- A turn of the response, or of others who leave a count of credits. -/
inductive Turn where
  | own
  | others (left : Credits)

def draw (m : Sharer) (c : Credits) : Sharer := m.mapCore (·.setCredits c)

def turn (m : Sharer) : Turn → Sharer
  | .own => m.advance
  | .others left => m.draw left

def turns (m : Sharer) (turns : List Turn) : Sharer := turns.foldl turn m

/-- The response if all frames of its batch had come, the one that has its credit in front. -/
def caughtUp (m : Sharer) : Response :=
  let r := m.response.core
  match m.stage with
  | .sending inHand? frames isLast =>
      { r with
        state := if isLast then .done else r.state
        backlog := inHand?.toList ++ r.backlog ++ frames }
  | .draining inHand? => { r with backlog := inHand?.toList ++ r.backlog }
  | .rest | .pumping | .settling => r

/-- What the call comes to if the rest of it is carried out at once and without credits. -/
def completion (m : Sharer) : Answer Unit × StreamingResponse :=
  let free := m.caughtUp.unpaced
  if m.stage.isFeeding then
    let (answer, core) := handleAll free m.answer m.response.queue
    (answer, ⟨core, m.response.args, []⟩)
  else (m.answer, ⟨free, m.response.args, m.response.queue⟩)

/-- The outlet stays open, frames need credit, and the response has not failed. -/
structure Flowing (m : Sharer) : Prop where
  metered : m.response.core.credits? ≠ none
  unlimited : m.response.core.outlet.room? = none
  sound : m.response.core.state ≠ .error

/-- From `m` to `n`, nothing has changed about what the call comes to. -/
structure Continues (m n : Sharer) : Prop where
  flowing : n.Flowing
  same : n.completion = m.completion

variable {m : Sharer}

theorem Flowing.steady (flowing : m.Flowing) : m.response.core.Steady where
  orderly := fun unmetered => absurd unmetered flowing.metered
  unlimited := flowing.unlimited
  sound := flowing.sound

theorem Flowing.settle (flowing : m.Flowing) : m.response.settle = m.response :=
  StreamingResponse.settle_of_sound flowing.sound m.response.args m.response.queue

/-- Of a turn that takes a credit or moves frames, it is enough to look at the frames as a whole,
whether they have gone out or not. -/
theorem Flowing.continues {stage next : Stage} {core : Response} {taken : Nat}
    (flowing : Flowing { m with response := { m.response with core }, stage := next, taken })
    (here : m.stage = stage) (feeding : next.isFeeding = stage.isFeeding)
    (whole : (caughtUp { m with
      response := { m.response with core }, stage := next, taken }).unpaced = m.caughtUp.unpaced) :
    m.Continues { m with response := { m.response with core }, stage := next, taken } where
  flowing := flowing
  same := by
    unfold completion
    rw [whole, here, feeding]

theorem completion_of_pumping (here : m.stage = .pumping) : m.completion =
    ((handleAll m.response.core.unpaced m.answer m.response.queue).1,
      ⟨(handleAll m.response.core.unpaced m.answer m.response.queue).2, m.response.args, []⟩) := by
  simp only [completion, caughtUp, here, Stage.isFeeding, if_true]

theorem draw_continues (flowing : m.Flowing) (left : Credits) : m.Continues (m.draw left) := by
  refine Flowing.continues ⟨Option.some_ne_none left, flowing.unlimited, flowing.sound⟩ rfl rfl ?_
  unfold caughtUp
  cases m.stage with
  | rest | pumping | sending | draining | settling => rfl

/-- A frame that has its credit goes out. -/
theorem transmit_of_flowing (flowing : m.Flowing) (f : Frame) (next failed : Stage) :
    m.transmit f next failed = { m with
      response := m.response.mapCore
        ({ · with outlet := ⟨f :: m.response.core.outlet.taken, none⟩ })
      stage := next } := by
  have put : m.response.core.outlet.put? f = some ⟨f :: m.response.core.outlet.taken, none⟩ :=
    Outlet.put?_eq_some_iff.mpr
      ⟨Response.isOpen_of_unlimited flowing.unlimited, by simp [flowing.unlimited]⟩
  simp only [transmit, Response.transmit, put]
  rfl

/-- With one more report in front of the others. -/
def report (m : Sharer) (e : ArgEvent) : Sharer :=
  { m with response := { m.response with queue := e :: m.response.queue } }

theorem completion_report (here : m.stage = .pumping) (e : ArgEvent) : (m.report e).completion =
    let done := handleAll (handle m.response.core.unpaced e).2
      (firstFailure m.answer (handle m.response.core.unpaced e).1) m.response.queue
    (done.1, ⟨done.2, m.response.args, []⟩) :=
  completion_of_pumping here

/-- A report that is dealt with at once. -/
theorem handle_continues (flowing : m.Flowing) (here : m.stage = .pumping) {e : ArgEvent}
    (metered : (handle m.response.core e).2.credits? ≠ none) :
    (m.report e).Continues
      ({ m with response := { m.response with core := (handle m.response.core e).2 } }.note
        (handle m.response.core e).1) := by
  obtain ⟨same, steady⟩ := StreamingResponse.handle_unpaced flowing.steady e
  refine ⟨⟨metered, steady.unlimited, steady.sound⟩, ?_⟩
  rw [completion_report here, same]
  exact completion_of_pumping here

/-- A batch is refused, or cut into frames, none of which has gone out yet. -/
theorem openBatch_continues (flowing : m.Flowing) (here : m.stage = .pumping) (chunks : List Bytes)
    (isLast : Bool) : (m.report (.parts chunks isLast)).Continues (m.openBatch chunks isLast) := by
  have begun := m.response.core.begun_eq
  -- Frames that are cut and not sent yet count as having come.
  rcases m.openBatch_cases chunks isLast with ⟨stays, same⟩ | ⟨frames, live, cut, opens⟩
  · have kept : (handle m.response.core (.parts chunks isLast)).2 = m.response.core := same
    have handled := handle_continues flowing here (kept.symm ▸ flowing.metered)
    rw [kept] at handled
    rw [stays]
    exact handled
  · have sends : handle m.response.core.unpaced (.parts chunks isLast) = _ :=
      Response.sendParts_free flowing.unlimited live cut
    rw [opens]
    refine ⟨⟨?_, ?_, (flowing.steady.begun live).sound⟩, ?_⟩
    · show m.response.core.begun.credits? ≠ none
      rw [begun]
      exact flowing.metered
    · show m.response.core.begun.outlet.room? = none
      rw [begun]
      exact flowing.unlimited
    · rw [completion_report here, sends, StreamingResponse.firstFailure_ok]
      rfl

theorem pump_continues (flowing : m.Flowing) (here : m.stage = .pumping) : m.Continues m.pump := by
  unfold pump
  split
  · rename_i reported
    rw [flowing.settle]
    refine ⟨⟨flowing.metered, flowing.unlimited, flowing.sound⟩, ?_⟩
    rw [completion_of_pumping here, reported]
    simp [completion, caughtUp, Stage.isFeeding, handleAll, reported]
  · rename_i e queue reported
    let popped : Sharer := { m with response := { m.response with queue } }
    have first : m = popped.report e := by
      simp [popped, report, ← reported]
    have flows : popped.Flowing := ⟨flowing.metered, flowing.unlimited, flowing.sound⟩
    rw [first]
    cases e with
    | parts chunks isLast => exact openBatch_continues flows here chunks isLast
    | error e => exact handle_continues flows here flowing.metered
    | finish =>
      refine handle_continues flows here ?_
      show m.response.core.finish.credits? ≠ none
      rw [Response.credits?_finish]
      exact flowing.metered

/-- A frame of a batch goes out, is parked, or gets its credit. -/
theorem sending_continues {inHand? : Option Frame} {frames : List Frame} {isLast : Bool}
    (flowing : m.Flowing) (here : m.stage = .sending inHand? frames isLast) :
    m.Continues m.advance := by
  cases inHand? with
  | some f =>
    simp only [advance, here, transmit_of_flowing flowing]
    refine Flowing.continues ⟨flowing.metered, rfl, flowing.sound⟩ here rfl ?_
    simp [caughtUp, here, Response.unpaced, Response.stream, Outlet.sent, flowing.unlimited]
  | none =>
    cases frames with
    | nil =>
      simp only [advance, here]
      cases isLast with
      | true =>
        have sound : ResponseState.done ≠ .error := by
          intro failed
          cases failed
        refine Flowing.continues ⟨flowing.metered, flowing.unlimited, sound⟩ here rfl ?_
        simp [caughtUp, here]
      | false =>
        refine Flowing.continues ⟨flowing.metered, flowing.unlimited, flowing.sound⟩ here rfl ?_
        simp [caughtUp, here]
    | cons f frames =>
      have parks : m.Continues { m.park f with stage := .sending none frames isLast } := by
        refine Flowing.continues ⟨flowing.metered, flowing.unlimited, flowing.sound⟩ here rfl ?_
        simp [caughtUp, here, Response.park]
      simp only [advance, here, take?]
      split
      · rename_i empty
        rw [List.isEmpty_iff] at empty
        cases taken : m.response.core.credits?.bind Credits.take? with
        | none => exact parks
        | some c =>
          have drawing := Option.some_ne_none c
          refine Flowing.continues ⟨drawing, flowing.unlimited, flowing.sound⟩ here rfl ?_
          simp [caughtUp, here, empty, Response.setCredits, Response.unpaced, Response.stream]
      · exact parks

/-- A frame that waits goes out or gets its credit, if there is one. -/
theorem draining_continues {inHand? : Option Frame} (flowing : m.Flowing)
    (here : m.stage = .draining inHand?) : m.Continues m.advance := by
  cases inHand? with
  | some f =>
    simp only [advance, here, transmit_of_flowing flowing]
    refine Flowing.continues ⟨flowing.metered, rfl, flowing.sound⟩ here rfl ?_
    simp [caughtUp, here, Response.unpaced, Response.stream, Outlet.sent, flowing.unlimited]
  | none =>
    have ends : m.Continues { m with stage := .settling } := by
      refine Flowing.continues ⟨flowing.metered, flowing.unlimited, flowing.sound⟩ here rfl ?_
      simp [caughtUp, here]
    simp only [advance, here, take?]
    split
    · exact ends
    · rename_i f backlog waiting
      cases taken : m.response.core.credits?.bind Credits.take? with
      | none => exact ends
      | some c =>
        refine Flowing.continues ⟨Option.some_ne_none c, flowing.unlimited, flowing.sound⟩ here rfl ?_
        simp [caughtUp, here, waiting, mapCore, StreamingResponse.mapCore, Response.setCredits,
          Response.unpaced, Response.stream]

/-- **A turn of the response changes nothing about what the call comes to.** -/
theorem advance_continues (flowing : m.Flowing) : m.Continues m.advance := by
  cases here : m.stage with
  | rest =>
    rw [advance, here]
    exact ⟨flowing, rfl⟩
  | pumping =>
    rw [advance, here]
    exact pump_continues flowing here
  | sending inHand? frames isLast => exact sending_continues flowing here
  | draining inHand? => exact draining_continues flowing here
  | settling =>
    rw [advance, here, flowing.settle]
    refine Flowing.continues ⟨flowing.metered, flowing.unlimited, flowing.sound⟩ here rfl ?_
    simp [caughtUp, here]

/-- **Nor do any turns,** whoever takes them. -/
theorem turns_continues (flowing : m.Flowing) (turns : List Turn) : m.Continues (m.turns turns) := by
  induction turns generalizing m with
  | nil => exact ⟨flowing, rfl⟩
  | cons t rest ih =>
    have first : m.Continues (m.turn t) := by
      cases t with
      | own => exact advance_continues flowing
      | others left => exact draw_continues flowing left
    have later := ih first.flowing
    exact ⟨later.flowing, later.same.trans first.same⟩

/-- Once the call is over, it has come to that. -/
theorem completion_of_rest (here : m.stage = .rest) :
    m.completion = (m.answer, m.response.unpaced) := by
  simp only [completion, caughtUp, here, Stage.isFeeding]
  rfl

/-- A call begins as it would without credits. -/
theorem begin_of_plain (flowing : m.Flowing) (here : m.stage = .rest)
    {a : StreamingResponse.Action} (ordinary : StreamingResponse.Ordinary a)
    (plain : a.meters = false) :
    (m.begin a).Flowing ∧ (m.begin a).completion = m.response.unpaced.step a := by
  obtain ⟨same, -⟩ := StreamingResponse.step_unpaced flowing.steady ordinary plain
  have feeding (feeds : a.feeds = true)
      (acts : m.begin a = (m.response.fed? a).elim { m with answer := (m.response.step a).1 }
        fun s => { m with response := s, stage := .pumping, answer := .ok () }) :
      (m.begin a).Flowing ∧ (m.begin a).completion = m.response.unpaced.step a := by
    have step := m.response.step_eq_of_fed? feeds
    cases fed : m.response.fed? a with
    | none =>
      rw [fed, Option.elim_none] at acts step
      rw [acts, same, congrArg Prod.snd step]
      exact ⟨⟨flowing.metered, flowing.unlimited, flowing.sound⟩, completion_of_rest here⟩
    | some s =>
      rw [fed, Option.elim_some] at acts step
      obtain ⟨code, core⟩ := StreamingResponse.core_of_fed? fed
      have flows : (m.begin a).Flowing := by
        rw [acts]
        refine ⟨?_, ?_, ?_⟩
        · exact core ▸ flowing.metered
        · exact core ▸ flowing.unlimited
        · exact core ▸ flowing.sound
      have steady : s.core.Steady := by
        rw [acts] at flows
        exact flows.steady
      obtain ⟨pumped, -⟩ := StreamingResponse.pump_unpaced steady
      obtain ⟨handled, after⟩ := StreamingResponse.handleAll_unpaced steady (.ok ()) s.queue
      refine ⟨flows, ?_⟩
      rw [same, step, ← pumped,
        StreamingResponse.pump_of_sound (s := s.unpaced) handled after.sound, acts]
      refine (completion_of_pumping rfl).trans ?_
      simp only [handled]
      rfl
  cases a with
  | setOk | write | endArg | send => exact feeding rfl rfl
  | setSpan span =>
    refine ⟨⟨flowing.metered, flowing.unlimited, flowing.sound⟩, ?_⟩
    exact completion_of_rest here
  | sendError | closeOutletAfter => cases ordinary
  | onDrain | shareCredits => cases plain

/-- Granting and sharing credits begin with nothing that would be noticed without them. -/
theorem begin_of_meters (flowing : m.Flowing) (here : m.stage = .rest)
    {a : StreamingResponse.Action} (meters : a.meters = true) :
    (m.begin a).Flowing ∧ (m.begin a).completion = (.ok (), m.response.unpaced) := by
  cases a with
  | onDrain granted =>
    refine ⟨⟨?_, flowing.unlimited, flowing.sound⟩, rfl⟩
    exact fun unmetered => flowing.metered (Option.map_eq_none_iff.mp unmetered)
  | shareCredits c =>
    exact ⟨⟨flowing.metered, flowing.unlimited, flowing.sound⟩, completion_of_rest here⟩
  | setOk | write | endArg | send | setSpan | sendError | closeOutletAfter => cases meters

/-- How far the call is from its end: the reports that are left, then what is left of the one that
is being dealt with. -/
def rank (m : Sharer) : Nat × Nat :=
  match m.stage with
  | .rest => (0, 0)
  | .settling => (0, 1)
  | .draining inHand? => (0, 2 * m.response.core.backlog.length + inHand?.toList.length + 2)
  | .pumping => (m.response.queue.length + 1, 0)
  | .sending inHand? frames _ =>
      (m.response.queue.length + 1, 2 * frames.length + inHand?.toList.length + 1)

/-- `m` is nearer to the end of the call than `n`. -/
def Nearer (m n : Sharer) : Prop := Prod.Lex (· < ·) (· < ·) m.rank n.rank

theorem nearer_wf : WellFounded Nearer :=
  InvImage.wf rank (Prod.lex Nat.lt_wfRel Nat.lt_wfRel).wf

theorem draw_rank (m : Sharer) (c : Credits) : (m.draw c).rank = m.rank := by
  unfold rank draw mapCore
  cases m.stage with
  | rest | pumping | sending | draining | settling => rfl

/-- A frame that goes out, or is refused, brings the end nearer. -/
theorem transmit_rank (f : Frame) (next failed : Stage) :
    (m.transmit f next failed).rank = rank { m with stage := next } ∨
      ∃ core, (m.transmit f next failed).rank =
        rank { m with response := { m.response with core }, stage := failed } := by
  rcases m.response.core.transmit_cases f with ⟨-, o, sent, -, -⟩ | ⟨-, refused⟩
  · left
    rw [transmit, sent]
    cases next with
    | rest | pumping | sending | draining | settling => rfl
  · right
    refine ⟨m.response.core.failTransport, ?_⟩
    rw [transmit, refused]
    cases failed with
    | rest | pumping | sending | draining | settling => rfl

theorem openBatch_rank (here : m.stage = .pumping) (chunks : List Bytes) (isLast : Bool) :
    (m.openBatch chunks isLast).rank.1 = m.response.queue.length + 1 := by
  rcases m.openBatch_cases chunks isLast with ⟨stays, -⟩ | ⟨frames, -, -, opens⟩
  · simp [stays, note, rank, here]
  · simp [opens, mapCore, StreamingResponse.mapCore, rank]

theorem pump_nearer (here : m.stage = .pumping) : m.pump.Nearer m := by
  have start : m.rank = (m.response.queue.length + 1, 0) := by rw [rank, here]
  rw [Nearer, start, Prod.lex_def]
  left
  unfold pump
  split
  · exact Nat.succ_pos _
  · rename_i e queue reported
    rw [reported, List.length_cons]
    cases e with
    | parts chunks isLast =>
      refine Nat.lt_succ_of_le (Nat.le_of_eq ?_)
      exact openBatch_rank (m := { m with response := { m.response with queue } }) here chunks isLast
    | error | finish => simp [note, rank, here]

/-- **Every turn of the response brings the call nearer to its end.** -/
theorem advance_nearer (busy : m.stage ≠ .rest) : m.advance.Nearer m := by
  cases here : m.stage with
  | rest => exact absurd here busy
  | pumping =>
    rw [advance, here]
    exact pump_nearer here
  | settling => simp [Nearer, advance, rank, here, Prod.lex_def]
  | sending inHand? frames isLast =>
    cases inHand? with
    | some f =>
      rw [advance, here, Nearer]
      rcases transmit_rank (m := m) f (.sending none frames isLast) .pumping with same | ⟨core, same⟩
      · rw [same]
        simp [rank, here, Prod.lex_def]
      · rw [same]
        simp [rank, here, Prod.lex_def]
    | none =>
      cases frames with
      | nil => simp [Nearer, advance, rank, here, mapCore, StreamingResponse.mapCore, Prod.lex_def]
      | cons f frames =>
        have parks : Nearer { m.park f with stage := .sending none frames isLast } m := by
          simp [Nearer, rank, here, park, mapCore, StreamingResponse.mapCore, Prod.lex_def]
        simp only [advance, here, take?]
        split
        · cases m.response.core.credits?.bind Credits.take? with
          | none => exact parks
          | some c =>
            simp [Nearer, rank, here, mapCore, StreamingResponse.mapCore, Prod.lex_def]
            omega
        · exact parks
  | draining inHand? =>
    cases inHand? with
    | some f =>
      rw [advance, here, Nearer]
      rcases transmit_rank (m := m) f (.draining none) .settling with same | ⟨core, same⟩
      · rw [same]
        simp [rank, here, Prod.lex_def]
      · rw [same]
        simp [rank, here, Prod.lex_def]
    | none =>
      have ends : Nearer { m with stage := .settling } m := by
        simp [Nearer, rank, here, Prod.lex_def]
      simp only [advance, here, take?]
      split
      · exact ends
      · rename_i f backlog waiting
        cases m.response.core.credits?.bind Credits.take? with
        | none => exact ends
        | some c =>
          simp [Nearer, rank, here, waiting, mapCore, StreamingResponse.mapCore, Prod.lex_def]
          omega

/-- Turns of the response, before each of which others leave some counts. -/
def schedule (others : Nat → List Credits) (count : Nat) : List Turn :=
  (List.range count).flatMap fun i => (others i).map .others ++ [.own]

theorem schedule_succ (others : Nat → List Credits) (count : Nat) : schedule others (count + 1) =
    (others 0).map .others ++ .own :: schedule (fun i => others (i + 1)) count := by
  simp [schedule, List.range_succ_eq_map, List.flatMap_map]

theorem turns_others (m : Sharer) (left : List Credits) :
    (m.turns (left.map .others)).rank = m.rank ∧ (m.turns (left.map .others)).stage = m.stage := by
  induction left generalizing m with
  | nil => exact ⟨rfl, rfl⟩
  | cons c rest ih =>
    obtain ⟨rank, stage⟩ := ih (m.draw c)
    exact ⟨rank.trans (m.draw_rank c), stage⟩

/-- **A call comes to its end, however often others interrupt it.** -/
theorem ends (m : Sharer) (others : Nat → List Credits) :
    ∃ count, (m.turns (schedule others count)).stage = .rest := by
  -- What others do before a turn leaves the rank as it is, and the turn itself lowers it.
  induction m using nearer_wf.induction generalizing others with
  | _ m ih =>
    by_cases resting : m.stage = .rest
    · exact ⟨0, resting⟩
    · obtain ⟨rank, stage⟩ := m.turns_others (others 0)
      have nearer : (m.turns ((others 0).map .others)).advance.Nearer m := by
        have next := advance_nearer (stage ▸ resting)
        rwa [Nearer, rank] at next
      obtain ⟨count, ended⟩ := ih _ nearer fun i => others (i + 1)
      refine ⟨count + 1, ?_⟩
      rw [schedule_succ, turns, List.foldl_append]
      exact ended

end Sharer

namespace StreamingResponse

/-- A call of a response that shares its credits. Others leave a count of these before the call, and
others between the turns of it. -/
def callAmid (s : StreamingResponse) (a : Action) (left : Credits) (turns : List Sharer.Turn) :
    Sharer :=
  (((Sharer.join s).draw left).begin a).turns turns

/-- What a call can come to. -/
inductive Amid (s : StreamingResponse) (a : Action) : Answer Unit × StreamingResponse → Prop where
  | alone : Amid s a (s.step a)
  | interrupted {left : Credits} {turns : List Sharer.Turn}
      (resting : (s.callAmid a left turns).stage = .rest) :
      Amid s a ((s.callAmid a left turns).answer, (s.callAmid a left turns).response)

variable {s : StreamingResponse} {a : Action} {result : Answer Unit × StreamingResponse}

theorem flowing_draw (steady : s.core.Steady) (left : Credits) :
    ((Sharer.join s).draw left).Flowing :=
  ⟨Option.some_ne_none left, steady.unlimited, steady.sound⟩

/-- **An interrupted call is answered as without credits,** and adds the same frames. -/
theorem Amid.alike (amid : s.Amid a result) (steady : s.core.Steady) (ordinary : Ordinary a)
    (plain : a.meters = false) : Alike (s.unpaced.step a) result := by
  cases amid with
  | alone => exact step_unpaced steady ordinary plain
  | @interrupted left turns resting =>
    obtain ⟨flowing, begins⟩ :=
      Sharer.begin_of_plain (flowing_draw steady left) rfl ordinary plain
    have last := Sharer.turns_continues flowing turns
    have ended := Sharer.completion_of_rest resting
    exact ⟨begins.symm.trans (last.same.symm.trans ended), last.flowing.steady⟩

/-- One that is about credits only comes to nothing. -/
theorem Amid.unnoticed (amid : s.Amid a result) (steady : s.core.Steady) (meters : a.meters = true) :
    result.2.unpaced = s.unpaced ∧ result.2.core.Steady := by
  cases amid with
  | alone => exact meter_unpaced steady meters
  | @interrupted left turns resting =>
    obtain ⟨flowing, begins⟩ := Sharer.begin_of_meters (flowing_draw steady left) rfl meters
    have last := Sharer.turns_continues flowing turns
    have ended := Sharer.completion_of_rest resting
    have same := ended.symm.trans (last.same.trans begins)
    exact ⟨congrArg Prod.snd same, last.flowing.steady⟩

end StreamingResponse

end CallWire
