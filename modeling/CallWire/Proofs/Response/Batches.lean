import CallWire.Proofs.Cutting
import CallWire.Response

/-!
# The frames of a batch

A batch of parts goes out as one frame a fragment (`Batch`). The first frame of a response is a
call response and all others continue it; the last frame of the last batch is the only one that
ends the response.
-/

namespace CallWire

namespace Frame

/-- Whether the frame ends its response. -/
def isTerminal (f : Frame) : Bool :=
  match f.body? with
  | some (.error _) => true
  | some (.callResponse b) => !hasMore b.flags
  | some (.callResponseCont b) => !hasMore b.flags
  | _ => false

end Frame

/-- One call response and what continues it, as far as there are any frames. -/
def CallRun : List Frame → Prop
  | [] => True
  | f :: rest => f.type? = some .callResponse ∧ ∀ g ∈ rest, g.type? = some .callResponseCont

namespace CallRun

theorem of_append {front back : List Frame} (run : CallRun (front ++ back)) : CallRun front := by
  cases front with
  | nil => trivial
  | cons f front => exact ⟨run.1, fun g hg => run.2 g (List.mem_append_left back hg)⟩

theorem append {front back : List Frame} (run : CallRun front) (filled : front ≠ [])
    (more : ∀ g ∈ back, g.type? = some .callResponseCont) : CallRun (front ++ back) := by
  cases front with
  | nil => exact absurd rfl filled
  | cons f front =>
    refine ⟨run.1, ?_⟩
    intro g hg
    rcases List.mem_append.mp hg with hg | hg
    · exact run.2 g hg
    · exact more g hg

theorem type?_of_mem {frames : List Frame} {f : Frame} (run : CallRun frames) (hf : f ∈ frames) :
    f.type? = some .callResponse ∨ f.type? = some .callResponseCont := by
  cases frames with
  | nil => cases hf
  | cons g rest =>
    rcases List.mem_cons.mp hf with rfl | hf
    · exact Or.inl run.1
    · exact Or.inr (run.2 f hf)

end CallRun

theorem ResponseConfig.within_of_validate {c : ResponseConfig} (valid : c.validate = .ok ()) :
    minBodySize ≤ c.maxBodySize ∧ c.maxBodySize ≤ FrameLayout.maxBodySize ∧
      c.headers.size ≤ Width.narrow.limit := by
  unfold validate at valid
  split at valid
  · cases valid
  · split at valid
    · cases valid
    · omega

/-- The first frame has room for the count of a chunk. -/
def ResponseConfig.Roomy (c : ResponseConfig) : Prop :=
  ∃ n, c.headers.length .narrow = .ok n ∧
    1 + 1 + Tracing.width + n + 1 + Fragment.chunkPrefix ≤ c.maxBodySize

namespace Response

variable {r : Response} {parts : List Bytes} {isLast opening : Bool} {frames : List Frame}

/-- The frames that carry a batch, the first of which opens the response if `opening`. -/
def Batch (r : Response) (parts : List Bytes) (isLast opening : Bool) (frames : List Frame) :
    Prop :=
  ∃ n first rest, r.preamble opening = .ok n ∧
    Fragment.Carries r.config.maxBodySize n parts (!isLast) first rest ∧
    frames = r.frameOf opening first :: rest.map (r.frameOf false)

theorem batch_of_fragment (valid : r.config.validate = .ok ())
    (h : r.fragment parts isLast opening = .ok frames) : r.Batch parts isLast opening frames := by
  obtain ⟨small, -, -⟩ := ResponseConfig.within_of_validate valid
  obtain ⟨n, preamble, h⟩ := bind_eq_ok_iff.mp h
  obtain ⟨fragments, cut, h⟩ := bind_eq_ok_iff.mp h
  have large : Fragment.contPreamble + Fragment.chunkPrefix ≤ r.config.maxBodySize := by
    simp only [Fragment.contPreamble, Fragment.chunkPrefix, ResponseConfig.minBodySize] at *
    omega
  obtain ⟨first, rest, rfl, carries⟩ := Fragment.carries_of_ofParts cut large
  cases h
  exact ⟨n, first, rest, preamble, carries, rfl⟩

/-- A batch is cut if the first frame has room for the count of a chunk. -/
theorem fragment_ok {n : Nat} (valid : r.config.validate = .ok ())
    (preamble : r.preamble opening = .ok n)
    (room : n + Fragment.chunkPrefix ≤ r.config.maxBodySize) (parts : List Bytes) (isLast : Bool) :
    ∃ frames, r.fragment parts isLast opening = .ok frames := by
  obtain ⟨small, -, -⟩ := ResponseConfig.within_of_validate valid
  have large : Fragment.contPreamble + 2 * Fragment.chunkPrefix ≤ r.config.maxBodySize := by
    simp only [Fragment.contPreamble, Fragment.chunkPrefix, ResponseConfig.minBodySize] at *
    omega
  obtain ⟨fragments, cut⟩ := Fragment.ofParts_ok large room parts isLast
  exact ⟨_, bind_eq_ok_iff.mpr ⟨n, preamble, bind_eq_ok_iff.mpr ⟨fragments, cut, rfl⟩⟩⟩

/-- Where the first frame has room, any batch can be cut. -/
theorem fragment_ok_of_roomy (valid : r.config.validate = .ok ()) (roomy : r.config.Roomy)
    (parts : List Bytes) (isLast opening : Bool) :
    ∃ frames, r.fragment parts isLast opening = .ok frames := by
  cases opening with
  | true =>
    obtain ⟨n, headers, room⟩ := roomy
    refine fragment_ok (n := 1 + 1 + Tracing.width + n + 1) valid ?_ room parts isLast
    simp [Response.preamble, openingPreamble, headers, Outcome.ofExcept, bind, Except.bind, pure,
      Except.pure]
  | false =>
    obtain ⟨small, -, -⟩ := ResponseConfig.within_of_validate valid
    refine fragment_ok (n := Fragment.contPreamble) valid rfl ?_ parts isLast
    simp only [Fragment.contPreamble, Fragment.chunkPrefix, ResponseConfig.minBodySize] at *
    omega

theorem openingPreamble_of_preamble {n : Nat} (preamble : r.preamble true = .ok n) :
    r.openingPreamble = .ok n := Outcome.ofExcept_eq_ok_iff.mp preamble

/-- A batch that opens the response can be cut only if the first frame has room. -/
theorem roomy_of_fragment (h : r.fragment parts isLast true = .ok frames) : r.config.Roomy := by
  obtain ⟨n, preamble, h⟩ := bind_eq_ok_iff.mp h
  obtain ⟨fragments, cut, -⟩ := bind_eq_ok_iff.mp h
  obtain ⟨headers, length, total⟩ := bind_eq_ok_iff.mp (openingPreamble_of_preamble preamble)
  cases total
  refine ⟨headers, length, ?_⟩
  unfold Fragment.ofParts at cut
  split at cut
  · cases cut
  · rename_i room
    exact Nat.not_lt.mp room

/-- A batch that cannot be cut is refused. -/
theorem refused_of_fragment {fault : Fault FrameError} (valid : r.config.validate = .ok ())
    (h : r.fragment parts isLast opening = .error fault) : ∃ e, fault = .refused e := by
  cases preamble : r.preamble opening with
  | error other =>
    have same : r.fragment parts isLast opening = .error other := by
      unfold fragment
      rw [preamble]
      rfl
    rw [same] at h
    cases h
    unfold Response.preamble at preamble
    split at preamble
    · cases opened : r.openingPreamble with
      | error e =>
        rw [opened] at preamble
        cases preamble
        exact ⟨e, rfl⟩
      | ok n =>
        rw [opened] at preamble
        cases preamble
    · cases preamble
  | ok n =>
    by_cases room : n + Fragment.chunkPrefix ≤ r.config.maxBodySize
    · obtain ⟨frames, cut⟩ := fragment_ok valid preamble room parts isLast
      rw [cut] at h
      cases h
    · have same : r.fragment parts isLast opening =
          refuse (.frameTooLarge (n + Fragment.chunkPrefix)) := by
        unfold fragment
        rw [preamble]
        show (Fragment.ofParts _ _ _ _ >>= _) = _
        unfold Fragment.ofParts
        rw [if_pos (Nat.not_le.mp room)]
        rfl
      rw [same] at h
      cases h
      exact ⟨_, rfl⟩

theorem type?_frameOf (r : Response) (opening : Bool) (f : Fragment) :
    (r.frameOf opening f).type? = some (if opening then .callResponse else .callResponseCont) := by
  cases opening <;> rfl

theorem chunks_frameOf (r : Response) (opening : Bool) (f : Fragment) :
    (r.frameOf opening f).chunks = f.chunks := by
  cases opening <;> rfl

theorem isTerminal_frameOf (r : Response) (opening : Bool) (f : Fragment) :
    (r.frameOf opening f).isTerminal = !f.more := by
  have flags : hasMore (if f.more then moreFragments else 0) = f.more := by
    cases f.more <;> decide
  cases opening
  · exact congrArg (! ·) flags
  · exact congrArg (! ·) flags

namespace Batch

variable (b : r.Batch parts isLast opening frames)
include b

theorem ids : ∀ f ∈ frames, f.id = r.id := by
  obtain ⟨n, first, rest, -, -, rfl⟩ := b
  intro f hf
  rcases List.mem_cons.mp hf with rfl | hf
  · rfl
  · obtain ⟨g, -, rfl⟩ := List.mem_map.mp hf
    rfl

theorem callRun (first : opening = true) : CallRun frames := by
  obtain ⟨n, head, rest, -, -, rfl⟩ := b
  constructor
  · rw [type?_frameOf, first]
    rfl
  · intro f hf
    obtain ⟨g, -, rfl⟩ := List.mem_map.mp hf
    exact type?_frameOf r false g

theorem continues (later : opening = false) : ∀ f ∈ frames, f.type? = some .callResponseCont := by
  obtain ⟨n, head, rest, -, -, rfl⟩ := b
  intro f hf
  rcases List.mem_cons.mp hf with rfl | hf
  · rw [type?_frameOf, later]
    rfl
  · obtain ⟨g, -, rfl⟩ := List.mem_map.mp hf
    exact type?_frameOf r false g

/-- Only the last frame can end the response, and does if the batch is the last. -/
theorem marked : ∃ front last, frames = front ++ [last] ∧
    (∀ f ∈ front, f.isTerminal = false) ∧ last.isTerminal = isLast := by
  obtain ⟨n, head, rest, -, carries, rfl⟩ := b
  obtain ⟨front, last, split, more, ends⟩ := carries.marked
  have announces (f : Fragment) (hf : f ∈ front) (opening : Bool) :
      (r.frameOf opening f).isTerminal = false := by
    rw [isTerminal_frameOf, more f hf]
    rfl
  have ending (opening : Bool) : (r.frameOf opening last).isTerminal = isLast := by
    rw [isTerminal_frameOf, ends, Bool.not_not]
  cases front with
  | nil =>
    cases split
    exact ⟨[], _, rfl, by simp, ending opening⟩
  | cons f front =>
    cases split
    refine ⟨r.frameOf opening head :: front.map (r.frameOf false), r.frameOf false last,
      by simp, ?_, ending false⟩
    intro g hg
    rcases List.mem_cons.mp hg with rfl | hg
    · exact announces head List.mem_cons_self opening
    · obtain ⟨k, hk, rfl⟩ := List.mem_map.mp hg
      exact announces k (List.mem_cons_of_mem _ hk) false

theorem joined : joinAll (frames.map (·.chunks)) = parts := by
  obtain ⟨n, head, rest, -, carries, rfl⟩ := b
  rw [← carries.joined]
  simp [chunks_frameOf, Function.comp_def]

end Batch
end Response
end CallWire
