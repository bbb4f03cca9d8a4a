import CallWire.Proofs.Filling
import CallWire.Proofs.Response.Encoding

/-!
# A batch fills its frames

A batch of one to three parts is cut into frames that can all be encoded, none with a body larger
than was set, and all but the last with a body that is full to within a byte. Joined again, their
chunks are the parts (`fragment_tiled`).
-/

namespace CallWire

/-- The flags of a call frame. -/
def Frame.flags? (f : Frame) : Option UInt8 :=
  match f.body? with
  | some (.callRequest b) => some b.flags
  | some (.callResponse b) => some b.flags
  | some (.callRequestCont b) | some (.callResponseCont b) => some b.flags
  | _ => none

namespace Response

/-- The frames that a batch fills, with bodies of up to `size` bytes. -/
structure Tiled (size : Nat) (parts : List Bytes) (isLast opening : Bool) (frames : List Frame) :
    Prop where
  chunks : ∀ f ∈ frames, 1 ≤ f.chunks.length ∧ f.chunks.length ≤ 3
  /-- No body is larger than was set. -/
  within : ∀ f ∈ frames, ∃ n, f.bodyLength = .ok n ∧ n ≤ size
  encodes : ∀ f ∈ frames, ∃ bytes g, f.encode = .ok (bytes, g)
  /-- All frames but the last announce more and lack at most one byte. The last announces more
  unless the batch is the last. -/
  full : ∃ front last, frames = front ++ [last] ∧
    (∀ f ∈ front, f.flags? = some moreFragments ∧ ∃ n, f.bodyLength = .ok n ∧ size - 1 ≤ n) ∧
    last.flags? = some (if isLast then 0 else moreFragments)
  /-- The first frame opens the response if it is to, and all others continue it. -/
  types : ∃ first rest, frames = first :: rest ∧
    first.type? = some (if opening then .callResponse else .callResponseCont) ∧
    ∀ f ∈ rest, f.type? = some .callResponseCont
  /-- The first chunk of each frame goes on with the last one of the frame before. -/
  joined : joinAll (frames.map Frame.chunks) = parts

variable {r : Response} {parts : List Bytes} {isLast opening : Bool} {frames : List Frame}
  {first : Fragment} {rest : List Fragment} {n : Nat}

theorem flags?_frameOf (r : Response) (opening : Bool) (f : Fragment) :
    (r.frameOf opening f).flags? = some (if f.more then moreFragments else 0) := by
  cases opening <;> rfl

/-- The frames of a batch, as they were cut. -/
theorem fills_of_fragment (valid : r.config.validate = .ok ()) (nonempty : parts ≠ [])
    (h : r.fragment parts isLast opening = .ok frames) :
    ∃ n first rest, r.preamble opening = .ok n ∧
      Fragment.Carries r.config.maxBodySize n parts (!isLast) first rest ∧
      Fragment.Fills r.config.maxBodySize n first rest ∧
      frames = r.frameOf opening first :: rest.map (r.frameOf false) := by
  obtain ⟨small, -, -⟩ := ResponseConfig.within_of_validate valid
  have large : Fragment.contPreamble + 2 * Fragment.chunkPrefix ≤ r.config.maxBodySize := by
    simp only [Fragment.contPreamble, Fragment.chunkPrefix, ResponseConfig.minBodySize] at *
    omega
  obtain ⟨n, preamble, h⟩ := bind_eq_ok_iff.mp h
  obtain ⟨fragments, cut, h⟩ := bind_eq_ok_iff.mp h
  obtain ⟨first, rest, rfl, carries⟩ := Fragment.carries_of_ofParts cut (by omega)
  cases h
  exact ⟨n, first, rest, preamble, carries, Fragment.fills_of_ofParts cut nonempty large, rfl⟩

/-- A fragment that is full makes a frame that is. -/
theorem full_frameOf (valid : r.config.validate = .ok ()) (preamble : r.preamble opening = .ok n)
    {f : Fragment} (few : f.chunks.length ≤ Chunks.limit)
    (within : n + Fragment.sizeOf f.chunks ≤ r.config.maxBodySize)
    (full : r.config.maxBodySize ≤ n + Fragment.sizeOf f.chunks + 1) (more : f.more = true) :
    (r.frameOf opening f).flags? = some moreFragments ∧
      ∃ n, (r.frameOf opening f).bodyLength = .ok n ∧ r.config.maxBodySize - 1 ≤ n := by
  obtain ⟨takes, -⟩ := takes_frameOf valid preamble few within
  refine ⟨?_, _, takes.bodyLength, Nat.sub_le_of_le_add full⟩
  rw [flags?_frameOf, more, if_pos rfl]

/-- All frames but the last are full. -/
theorem full_of_fills (valid : r.config.validate = .ok ()) (preamble : r.preamble opening = .ok n)
    (few : parts.length ≤ Chunks.limit)
    (carries : Fragment.Carries r.config.maxBodySize n parts (!isLast) first rest)
    (fills : Fragment.Fills r.config.maxBodySize n first rest) :
    ∃ front last, r.frameOf opening first :: rest.map (r.frameOf false) = front ++ [last] ∧
      (∀ f ∈ front, f.flags? = some moreFragments ∧
        ∃ n, f.bodyLength = .ok n ∧ r.config.maxBodySize - 1 ≤ n) ∧
      last.flags? = some (if isLast then 0 else moreFragments) := by
  obtain ⟨front, last, split, more, ends⟩ := carries.marked
  have ending (opening : Bool) :
      (r.frameOf opening last).flags? = some (if isLast then 0 else moreFragments) := by
    rw [flags?_frameOf, ends]
    cases isLast <;> rfl
  cases front with
  | nil =>
    cases split
    exact ⟨[], _, rfl, by simp, ending opening⟩
  | cons f front =>
    rw [List.cons_append] at split
    obtain ⟨rfl, rfl⟩ := List.cons.inj split
    refine ⟨r.frameOf opening first :: front.map (r.frameOf false), r.frameOf false last,
      by simp, ?_, ending false⟩
    intro g hg
    rcases List.mem_cons.mp hg with rfl | hg
    · have fewer := Nat.le_trans (carries.few first List.mem_cons_self) few
      exact full_frameOf valid preamble fewer carries.opening (fills.opening (by simp))
        (more first List.mem_cons_self)
    · obtain ⟨k, hk, rfl⟩ := List.mem_map.mp hg
      have there : k ∈ front ++ [last] := List.mem_append_left _ hk
      have fewer := Nat.le_trans (carries.few k (List.mem_cons_of_mem _ there)) few
      have full := fills.continuing k (by rwa [List.dropLast_concat])
      have preamble : r.preamble false = .ok Fragment.contPreamble := rfl
      exact full_frameOf valid preamble fewer (carries.continuing k there) full
        (more k (List.mem_cons_of_mem _ hk))

/-- **A batch is cut into frames that it fills:** bounded, encodable, full to within a byte, and
with all its parts in them, whenever the first frame has room for the count of a chunk. -/
theorem fragment_tiled (valid : r.config.validate = .ok ()) (roomy : r.config.Roomy)
    (nonempty : parts ≠ []) (few : parts.length ≤ 3) (isLast opening : Bool) :
    ∃ frames, r.fragment parts isLast opening = .ok frames ∧
      Tiled r.config.maxBodySize parts isLast opening frames := by
  obtain ⟨frames, cut⟩ := fragment_ok_of_roomy valid roomy parts isLast opening
  refine ⟨frames, cut, ?_⟩
  have batch := batch_of_fragment valid cut
  obtain ⟨n, first, rest, preamble, carries, fills, rfl⟩ := fills_of_fragment valid nonempty cut
  refine ⟨?_, ?_, ?_, full_of_fills valid preamble few carries fills, ?_, batch.joined⟩
  · intro f hf
    obtain ⟨opening, k, hk, rfl⟩ : ∃ opening, ∃ k ∈ first :: rest, f = r.frameOf opening k := by
      rcases List.mem_cons.mp hf with rfl | hf
      · exact ⟨opening, first, List.mem_cons_self, rfl⟩
      · obtain ⟨k, hk, rfl⟩ := List.mem_map.mp hf
        exact ⟨false, k, List.mem_cons_of_mem _ hk, rfl⟩
    rw [chunks_frameOf]
    exact ⟨List.length_pos_iff.mpr (fills.filled k hk), Nat.le_trans (carries.few k hk) few⟩
  · intro f hf
    obtain ⟨-, -, m, -, takes, within, -⟩ := batch.encodes valid few f hf
    exact ⟨m, takes.bodyLength, within⟩
  · intro f hf
    obtain ⟨-, -, -, -, -, -, g, encoded⟩ := batch.encodes valid few f hf
    exact ⟨_, g, encoded⟩
  · refine ⟨_, _, rfl, type?_frameOf r opening first, ?_⟩
    intro f hf
    obtain ⟨k, -, rfl⟩ := List.mem_map.mp hf
    exact type?_frameOf r false k

/-- Settings with a header and the smallest frames there can be. -/
def narrowSettings : ResponseConfig := ⟨64, ⟨[("as", "raw")]⟩, none⟩

/-- The first part is empty, the second ends where only one byte is left of the first frame, and
the third goes on over several frames. -/
def narrowParts : List Bytes := [[], List.replicate 22 1, List.replicate 150 2]

theorem fragment_tiled_narrow : ∃ r, make 7 narrowSettings = .ok r ∧
    r.config.validate = .ok () ∧ r.config.Roomy ∧ narrowParts ≠ [] ∧ narrowParts.length ≤ 3 ∧
    (r.fragment narrowParts false true).toOption.map List.length = some 4 ∧
    ∃ frames, r.fragment narrowParts false true = .ok frames ∧
      Tiled 64 narrowParts false true frames := by
  have roomy : narrowSettings.Roomy := ⟨8, rfl, by decide⟩
  have nonempty : narrowParts ≠ [] := by simp [narrowParts]
  have few : narrowParts.length ≤ 3 := by decide
  refine ⟨_, rfl, rfl, roomy, nonempty, few, ?_, fragment_tiled rfl roomy nonempty few false true⟩
  decide +kernel

end Response

end CallWire
