import CallWire.Proofs.Response.Pacing
import CallWire.Proofs.Streaming.Settled

/-!
# Which responses can be opened

Settings that are accepted need not leave room for a chunk in the first frame: how many headers
there are is checked, and how large they are is not. Where there is no room, the first batch is
refused whatever it carries, when the argument stream has already given it up (`opens_of_make`).
-/

namespace CallWire

namespace Response

variable {r : Response}

/-- The first batch of a response is sent or parked if the first frame has room for a chunk, and is
refused otherwise. -/
theorem sendParts_initial (valid : r.config.validate = .ok ()) (initial : r.state = .initial)
    (steady : r.Steady) (parts : List Bytes) (isLast : Bool) :
    (r.config.Roomy ∧ ∃ s frames, r.sendParts parts isLast = (.ok (), s) ∧
      s.stream = r.stream ++ frames ∧ joinAll (frames.map Frame.chunks) = parts) ∨
    (¬ r.config.Roomy ∧ ∃ e, r.sendParts parts isLast = (.error (.refused (.frame e)), r)) := by
  have live : r.state.isTerminal = false := by
    rw [initial]
    rfl
  have opening : decide (r.state = .initial) = true := decide_eq_true initial
  cases cut : r.fragment parts isLast (r.state = .initial) with
  | ok frames =>
    have roomy : r.config.Roomy := by
      rw [opening] at cut
      exact roomy_of_fragment cut
    obtain ⟨s, done, d⟩ := (steady.begun live).delivers frames
    have stream : s.stream = r.stream ++ frames := by rw [d.stream, begun_stream]
    refine Or.inl ⟨roomy, _, frames, sendParts_of_cut live cut done, ?_,
      (batch_of_fragment valid cut).joined⟩
    cases isLast with
    | true => exact stream
    | false => exact stream
  | error fault =>
    obtain ⟨e, rfl⟩ := refused_of_fragment valid cut
    refine Or.inr ⟨?_, e, ?_⟩
    · intro roomy
      obtain ⟨frames, whole⟩ := fragment_ok_of_roomy valid roomy parts isLast (r.state = .initial)
      rw [whole] at cut
      cases cut
    · exact sendParts_of_uncut live cut

end Response

namespace StreamingResponse

open Response

variable {id : UInt32} {config : ResponseConfig} {start : StreamingResponse}

/-- What can be done with a new response. -/
structure Opens (config : ResponseConfig) (start : StreamingResponse) : Prop where
  /-- The first batch is refused because of a frame exactly if the first frame has no room. -/
  refused : ∀ parts isLast,
    (∃ e, (start.core.sendParts parts isLast).1 = .error (.refused (.frame e))) ↔ ¬ config.Roomy
  /-- Where it has room, the frames carry the whole batch. -/
  sent : config.Roomy → ∀ parts isLast, ∃ r, start.core.sendParts parts isLast = (.ok (), r) ∧
    joinAll (r.stream.map Frame.chunks) = parts
  /-- The end of the arguments is sure to end the response exactly if it has room. -/
  ended : config.Roomy ↔ ∀ actions, (start.run actions).args.finished = true →
    (start.run actions).core.state.isTerminal = true

/-- Arguments that are sent at once and refused are gone: they are over, and the response has not
begun. -/
theorem send_refused {fault : Fault ResponseError} {arg2 arg3 : Bytes}
    (refused : (fresh id config).sendParts [[], arg2, arg3] true = (.error fault, fresh id config)) :
    send ⟨fresh id config, .empty, []⟩ arg2 arg3 =
      (.error fault, ⟨fresh id config, .spent, []⟩) := by
  have ran : ArgStream.empty.run
      [.write .arg2 arg2, .endArg .arg2, .write .arg3 arg3, .endArg .arg3] =
        (.spent, ([] : List ArgStreamError).map .error ++
          [.parts [[], arg2, arg3] true, .finish]) :=
    ArgStream.run_send (Nat.zero_le 1) arg2 arg3
  have acted := act_last (s := ⟨fresh id config, .empty, []⟩) rfl ran
  have told : (fresh id config).tellRejections [] = fresh id config := rfl
  rw [told, refused] at acted
  exact acted

/-- **A response can be opened exactly if its first frame has room for a chunk,** although all
settings with few headers are accepted. -/
theorem opens_of_make (made : make id config = .ok start) : Opens config start := by
  obtain ⟨settled, -, begun⟩ := settled_make made
  obtain ⟨valid, rfl⟩ := make_eq_ok_iff.mp made
  have first (parts : List Bytes) (isLast : Bool) :
      (config.Roomy ∧ ∃ s frames, (fresh id config).sendParts parts isLast = (.ok (), s) ∧
        s.stream = frames ∧ joinAll (frames.map Frame.chunks) = parts) ∨
      (¬ config.Roomy ∧ ∃ e, (fresh id config).sendParts parts isLast =
        (.error (.refused (.frame e)), fresh id config)) :=
    sendParts_initial (r := fresh id config) valid rfl (steady_fresh id config) parts isLast
  refine ⟨?_, ?_, ?_, ?_⟩
  · intro parts isLast
    rcases first parts isLast with ⟨roomy, s, frames, done, -⟩ | ⟨cramped, e, done⟩
    · rw [done]
      simp [roomy]
    · rw [done]
      simp [cramped]
  · intro roomy parts isLast
    rcases first parts isLast with ⟨-, s, frames, done, rfl, joined⟩ | ⟨cramped, -⟩
    · exact ⟨s, done, joined⟩
    · exact absurd roomy cramped
  · intro roomy actions finished
    obtain ⟨h, -, complete⟩ := run_settled settled actions
    apply complete roomy begun
    rcases h.resting with ⟨n, -, idle⟩ | spent
    · rw [idle] at finished
      cases finished
    · exact spent
  · intro ends
    rcases first [[], [], []] true with ⟨roomy, -⟩ | ⟨-, e, refused⟩
    · exact roomy
    · -- the arguments are over, but the response has not even begun
      have sent := send_refused refused
      have last := ends [.send [] []]
      simp only [run, List.foldl_cons, List.foldl_nil, step, sent] at last
      cases last rfl

/-- Settings with one header, for which there is room up to the last byte. -/
def snug : ResponseConfig := ⟨65, ⟨[("k", "vvvvvvvvvvvvvvvvvvvvvvvvvvvvvvv")]⟩, none⟩

theorem opens_of_make_snug : ∃ start, make 1 snug = .ok start ∧ snug.Roomy ∧ Opens snug start :=
  ⟨_, rfl, ⟨35, rfl, by decide⟩, opens_of_make rfl⟩

/-- Settings that are accepted although their header leaves no room for a chunk. -/
def cramped : ResponseConfig := { snug with maxBodySize := 64 }

/-- Arguments that were all ended are gone, and the response is as it was in the beginning. -/
theorem send_cramped : ∃ start, make 1 cramped = .ok start ∧ cramped.validate = .ok () ∧
    (start.core.sendParts [[]] false).1 = .error (.refused (.frame (.frameTooLarge 65))) ∧
    (start.run [.send [1] [2]]).args.finished = true ∧
    (start.run [.send [1] [2]]).core.state.isTerminal = false ∧
    (start.run [.send [1] [2]]).core.stream = [] := by
  refine ⟨_, rfl, rfl, rfl, ?_⟩
  decide +kernel

end StreamingResponse

end CallWire
