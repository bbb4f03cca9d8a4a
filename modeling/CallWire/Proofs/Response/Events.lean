import CallWire.Proofs.Response.Batches
import CallWire.Proofs.Response.Delivery

/-!
# What the observer of a response is told

Until a response ends, its observer is told of rejected arguments only (`Quiet`). With the end it
is told that the response has finished, right behind the error if an error frame ended it, and
nothing from then on (`Told`).
-/

namespace CallWire

/-- Only rejected writes and ends are told. -/
def Rejections (events : List ResponseEvent) : Prop := ∀ e ∈ events, ∃ x, e = .argError x

theorem Rejections.finished_notMem {events : List ResponseEvent} (only : Rejections events) :
    .finished ∉ events := by
  intro inside
  obtain ⟨x, hx⟩ := only _ inside
  cases hx

theorem Rejections.errored_notMem {events : List ResponseEvent} (only : Rejections events)
    (code : ErrorCode) (message : String) : .errored code message ∉ events := by
  intro inside
  obtain ⟨x, hx⟩ := only _ inside
  cases hx

namespace Response

variable {r s : Response}

/-- The observer has not been told that the response has ended. -/
structure Quiet (r : Response) : Prop where
  finished : r.finished = false
  events : Rejections r.events

/-- The observer has been told that the response has ended, and nothing since. -/
structure Told (r : Response) : Prop where
  ended : r.state.isTerminal = true
  finished : r.finished = true
  events : ∃ front tail, r.events = front ++ tail ∧ Rejections front ∧
    (tail = [.finished] ∨ ∃ code message, tail = [.errored code message, .finished])

/-- What the observer knows between two operations. -/
def Informed (r : Response) : Prop := r.state.isTerminal = false ∧ r.Quiet ∨ r.Told

/-- From `r` to `s`, the observer was told more, but of no error frame. -/
def TellsOn (r s : Response) : Prop :=
  ∃ told, s.events = r.events ++ told ∧ ∀ code message, .errored code message ∉ told

namespace TellsOn

theorem of_same (same : s.events = r.events) : TellsOn r s :=
  ⟨[], by rw [same, List.append_nil], by simp⟩

theorem trans {t : Response} (first : TellsOn r s) (second : TellsOn s t) : TellsOn r t := by
  obtain ⟨told, events, unerrored⟩ := first
  obtain ⟨more, further, still⟩ := second
  refine ⟨told ++ more, by rw [further, events, List.append_assoc], ?_⟩
  intro code message inside
  rcases List.mem_append.mp inside with inside | inside
  · exact unerrored code message inside
  · exact still code message inside

end TellsOn

theorem finish_of_live (live : r.state.isTerminal = false) : r.finish = r := by
  simp [finish, live]

theorem finish_of_finished (finished : r.finished = true) : r.finish = r := by
  simp [finish, finished]

theorem finish_of_ended (ended : r.state.isTerminal = true) (quiet : r.finished = false) :
    r.finish = { r with finished := true, events := r.events ++ [.finished] } := by
  simp [finish, ended, quiet, tell]

theorem tellsOn_finish (r : Response) : TellsOn r r.finish := by
  unfold finish
  split
  · exact ⟨[.finished], rfl, by simp⟩
  · exact .of_same rfl

/-- The end of a response is told once. -/
theorem told_finish (ended : r.state.isTerminal = true) (known : r.Quiet ∨ r.Told) :
    r.finish.Told := by
  rcases known with quiet | told
  · rw [finish_of_ended ended quiet.finished]
    exact ⟨ended, rfl, r.events, [.finished], rfl, quiet.events, Or.inl rfl⟩
  · rw [finish_of_finished told.finished]
    exact told

theorem Quiet.of_same (quiet : r.Quiet) (finished : s.finished = r.finished)
    (events : s.events = r.events) : s.Quiet :=
  ⟨finished.trans quiet.finished, events ▸ quiet.events⟩

theorem Told.of_same (told : r.Told) (state : s.state = r.state)
    (finished : s.finished = r.finished) (events : s.events = r.events) : s.Told :=
  ⟨state ▸ told.ended, finished.trans told.finished, events ▸ told.events⟩

theorem Informed.of_same (known : r.Informed) (state : s.state = r.state)
    (finished : s.finished = r.finished) (events : s.events = r.events) : s.Informed := by
  rcases known with ⟨live, quiet⟩ | told
  · exact Or.inl ⟨state ▸ live, quiet.of_same finished events⟩
  · exact Or.inr (told.of_same state finished events)

theorem Informed.quiet_or_told (known : r.Informed) : r.Quiet ∨ r.Told := by
  rcases known with ⟨-, quiet⟩ | told
  · exact Or.inl quiet
  · exact Or.inr told

theorem told_failTransport (known : r.Quiet ∨ r.Told) :
    r.failTransport.Told ∧ TellsOn r r.failTransport := by
  constructor
  · refine told_finish ?_ ?_
    · show (if r.state.isTerminal then r.state else .error).isTerminal = true
      split
      · assumption
      · rfl
    · rcases known with quiet | told
      · exact Or.inl (quiet.of_same rfl rfl)
      · refine Or.inr (told.of_same ?_ rfl rfl)
        show (if r.state.isTerminal then r.state else .error) = r.state
        rw [if_pos told.ended]
  · exact TellsOn.trans (.of_same rfl) (tellsOn_finish _)

theorem known_of_delivers {frames : List Frame} (d : Delivers r frames s)
    (known : r.Quiet ∨ r.Told) : s.Quiet ∨ s.Told := by
  rcases known with quiet | told
  · exact Or.inl (quiet.of_same d.finished_eq d.events_eq)
  · exact Or.inr (told.of_same d.state_eq d.finished_eq d.events_eq)

/-- A batch tells of the end of the response only if the outlet refuses one of its frames. -/
theorem quiet_partsSent {parts : List Bytes} {isLast : Bool} {result : Answer Unit × Response}
    (live : r.state.isTerminal = false) (quiet : r.Quiet) (h : PartsSent r parts isLast result) :
    TellsOn r result.2 ∧ (result.2.Told ∧ result.2.state = .error ∨
      result.2.Quiet ∧ (isLast = false → result.2.state.isTerminal = false)) := by
  cases h with
  | ended terminal => exact absurd (terminal.symm.trans live) (by simp)
  | uncut live uncut => exact ⟨.of_same rfl, Or.inr ⟨quiet, fun _ => live⟩⟩
  | @sent frames s live cut d =>
    have events : s.events = r.events := d.events_eq.trans (begun_events r)
    have finished : s.finished = r.finished := d.finished_eq.trans (begun_finished r)
    have state : s.state = .started := d.state_eq.trans (begun_state live)
    cases isLast with
    | true =>
      exact ⟨.of_same events, Or.inr ⟨quiet.of_same finished events, by simp⟩⟩
    | false =>
      refine ⟨.of_same events, Or.inr ⟨quiet.of_same finished events, fun _ => ?_⟩⟩
      show s.state.isTerminal = false
      rw [state]
      rfl
  | @broken front back f s live cut d blocked =>
    have begun : r.begun.Quiet := quiet.of_same (begun_finished r) (begun_events r)
    have same : TellsOn r s := .of_same (d.events_eq.trans (begun_events r))
    obtain ⟨told, tells⟩ := told_failTransport (known_of_delivers d (Or.inl begun))
    refine ⟨same.trans tells, Or.inl ⟨told, ?_⟩⟩
    show s.failTransport.state = .error
    rw [state_failTransport, d.state_eq, begun_state live]
    rfl

theorem informed_drained {result : Answer Nat × Response} (known : r.Informed)
    (h : Drained r result) : result.2.Informed ∧ TellsOn r result.2 := by
  cases h with
  | unmetered free => exact ⟨known, .of_same rfl⟩
  | released d left =>
    exact ⟨known.of_same d.state_eq d.finished_eq d.events_eq, .of_same d.events_eq⟩
  | @broken front back f t waiting d blocked =>
    have same : { r with backlog := front }.Informed := known.of_same rfl rfl rfl
    obtain ⟨told, tells⟩ := told_failTransport (known_of_delivers d same.quiet_or_told)
    exact ⟨Or.inr told, TellsOn.trans (.of_same d.events_eq) tells⟩

/-- An error that is sent in time is told, and then the end of the response. -/
theorem told_errorSent {code : ErrorCode} {message : String} {result : Answer Unit × Response}
    (live : r.state.isTerminal = false) (quiet : r.Quiet) (h : ErrorSent r code message result) :
    result.2.Told ∧ result.2.events = r.events ++ [.errored code message, .finished] := by
  have ends {s : Response} (state : s.state = .error) (finished : s.finished = r.finished)
      (events : s.events = r.events ++ [.errored code message]) :
      s.finish.Told ∧ s.finish.events = r.events ++ [.errored code message, .finished] := by
    have ended : s.state.isTerminal = true := by rw [state]; rfl
    rw [finish_of_ended ended (finished.trans quiet.finished)]
    refine ⟨⟨ended, rfl, r.events, [.errored code message, .finished], ?_, quiet.events,
      Or.inr ⟨code, message, rfl⟩⟩, ?_⟩
    · simp [events]
    · simp [events]
  cases h with
  | ended terminal => exact absurd (terminal.symm.trans live) (by simp)
  | sent live isOpen taken => exact ends rfl rfl rfl
  | lost live closed => exact ends rfl rfl rfl

/-- The observer is told once that the response has ended, as soon as it has. -/
theorem Informed.finished_count (known : r.Informed) :
    r.events.count .finished = if r.state.isTerminal then 1 else 0 := by
  rcases known with ⟨live, quiet⟩ | told
  · rw [List.count_eq_zero.mpr quiet.events.finished_notMem, live]
    rfl
  · obtain ⟨front, tail, events, only, tails⟩ := told.events
    rw [events, List.count_append, List.count_eq_zero.mpr only.finished_notMem, told.ended]
    rcases tails with rfl | ⟨code, message, rfl⟩
    · simp
    · simp

/-- The observer is told nothing after that. -/
theorem Informed.finished_last (known : r.Informed) {front back : List ResponseEvent}
    (split : r.events = front ++ .finished :: back) : back = [] := by
  rcases known with ⟨-, quiet⟩ | told
  · exact absurd (by simp [split]) quiet.events.finished_notMem
  · obtain ⟨before, tail, events, only, tails⟩ := told.events
    rcases tails with rfl | ⟨code, message, rfl⟩
    · exact (eq_nil_of_concat (split.symm.trans events) only.finished_notMem).1
    · have last : front ++ .finished :: back =
          (before ++ [.errored code message]) ++ [.finished] := by
        simp [← split, events]
      refine (eq_nil_of_concat last fun inside => ?_).1
      rcases List.mem_append.mp inside with inside | inside
      · exact only.finished_notMem inside
      · cases List.mem_singleton.mp inside

/-- An error is told no more than once, and right before the end. -/
theorem Informed.errored_once (known : r.Informed) {front back : List ResponseEvent}
    {code : ErrorCode} {message : String}
    (split : r.events = front ++ .errored code message :: back) :
    (∀ code message, .errored code message ∉ front) ∧ back = [.finished] := by
  rcases known with ⟨-, quiet⟩ | told
  · exact absurd (by simp [split]) (quiet.events.errored_notMem code message)
  · obtain ⟨before, tail, events, only, tails⟩ := told.events
    rcases tails with rfl | ⟨other, text, rfl⟩
    · have inside : .errored code message ∈ before ++ [.finished] := by simp [← events, split]
      rcases List.mem_append.mp inside with inside | inside
      · exact absurd inside (only.errored_notMem code message)
      · cases List.mem_singleton.mp inside
    · have whole : front ++ .errored code message :: back =
          (before ++ [.errored other text]) ++ [.finished] := by
        simp [← split, events]
      by_cases empty : back = []
      · subst empty
        obtain ⟨-, last⟩ := List.append_inj' whole rfl
        cases List.singleton_inj.mp last
      · obtain ⟨more, g, rfl⟩ := exists_concat empty
        have turned : (front ++ .errored code message :: more) ++ [g] =
            (before ++ [.errored other text]) ++ [.finished] := by
          simpa using whole
        obtain ⟨same, last⟩ := List.append_inj' turned rfl
        obtain ⟨rfl, rfl, -⟩ := eq_nil_of_concat same (only.errored_notMem code message)
        exact ⟨only.errored_notMem, last⟩

end Response

end CallWire
