import CallWire.Proofs.Cutting

/-!
# Frames are filled up

While a batch is laid out, nothing of a frame's body is wasted: what the frame holds and the space
that is left make up the size that was set (`Layout.Exact`). A frame is closed only where not even
the count of a chunk fits any more, so it lacks at most one byte, and never before a chunk has been
put down in it. So all frames of a batch but the last are full to within a byte, and every frame
holds a chunk (`fills_of_ofParts`).
-/

namespace CallWire.Fragment

/-- What the frame behind some others holds besides its chunks. Only the first has the preamble of
the batch. -/
def reserve (preamble : Nat) : List Fragment → Nat
  | [] => preamble
  | _ :: _ => contPreamble

/-- Every frame holds a chunk and lacks at most one byte. The last in the list is the first frame. -/
def Tight (size preamble : Nat) : List Fragment → Prop
  | [] => True
  | f :: before =>
      f.chunks ≠ [] ∧ size ≤ reserve preamble before + sizeOf f.chunks + 1 ∧
        Tight size preamble before

theorem Tight.of_concat {size preamble : Nat} {others : List Fragment} {first : Fragment}
    (tight : Tight size preamble (others ++ [first])) :
    (∀ f ∈ first :: others, f.chunks ≠ []) ∧ size ≤ preamble + sizeOf first.chunks + 1 ∧
      ∀ f ∈ others, size ≤ contPreamble + sizeOf f.chunks + 1 := by
  induction others with
  | nil =>
    obtain ⟨holds, full, -⟩ := tight
    exact ⟨by simpa using holds, full, by simp⟩
  | cons f others ih =>
    obtain ⟨holds, fits, before⟩ := tight
    obtain ⟨all, start, later⟩ := ih before
    have behind : reserve preamble (others ++ [first]) = contPreamble := by
      cases others with
      | nil => rfl
      | cons g others => rfl
    have full : size ≤ contPreamble + sizeOf f.chunks + 1 := behind ▸ fits
    refine ⟨?_, start, ?_⟩
    · intro g hg
      rcases List.mem_cons.mp hg with rfl | hg
      · exact all g List.mem_cons_self
      · rcases List.mem_cons.mp hg with rfl | hg
        · exact holds
        · exact all g (List.mem_cons_of_mem _ hg)
    · intro g hg
      rcases List.mem_cons.mp hg with rfl | hg
      · exact full
      · exact later g hg

namespace Layout

/-- What the frames hold while parts are put down, and the space that is left. -/
structure Exact (size preamble : Nat) (l : Layout) : Prop where
  /-- The body of the frame that is being filled has the size that was set. -/
  total : reserve preamble l.closed + sizeOf l.chunks + l.space = size
  begun : l.chunks = [] → chunkPrefix ≤ l.space
  tight : Tight size preamble l.closed

variable {size preamble : Nat} {l m : Layout} {part : Bytes}

/-- A chunk that fits takes its space. -/
theorem Exact.push (exact : Exact size preamble l) {chunk : Bytes} {space : Nat}
    (fits : chunkPrefix + chunk.length + space = l.space) :
    Exact size preamble { l with chunks := chunk :: l.chunks, space } where
  total := by
    have total := exact.total
    show reserve preamble l.closed + (chunkPrefix + chunk.length + sizeOf l.chunks) + space = size
    omega
  begun := fun empty => by cases empty
  tight := exact.tight

/-- A frame is closed when it lacks no more than one byte. -/
theorem Exact.finish (exact : Exact size preamble l) (filled : l.chunks ≠ [])
    (full : l.space ≤ 1) {chunks : List Bytes} {space : Nat}
    (begun : chunks = [] → chunkPrefix ≤ space)
    (next : contPreamble + sizeOf chunks + space = size) :
    Exact size preamble ⟨l.finish true, chunks, space⟩ where
  total := next
  begun := begun
  tight := by
    refine ⟨?_, ?_, exact.tight⟩
    · intro empty
      exact filled (List.reverse_eq_nil_iff.mp empty)
    · have total := exact.total
      show size ≤ reserve preamble l.closed + sizeOf l.chunks.reverse + 1
      rw [sizeOf_reverse]
      omega

theorem Placed.exact (placed : Placed size l part m)
    (large : contPreamble + 2 * chunkPrefix ≤ size) (exact : Exact size preamble l) :
    Exact size preamble m ∧ m.chunks ≠ [] := by
  induction placed with
  | whole fits => exact ⟨exact.push (by omega), by simp⟩
  | @cut l m head rest full onward ih =>
    -- the part is cut where the frame ends
    have pushed : Exact size preamble { l with chunks := head :: l.chunks, space := 0 } :=
      exact.push (by omega)
    refine ih (pushed.finish (by simp) (Nat.zero_le 1) (fun _ => ?_) ?_)
    · show chunkPrefix ≤ size - contPreamble
      omega
    · show contPreamble + 0 + (size - contPreamble) = size
      omega
  | @opened l m part full onward ih =>
    have filled : l.chunks ≠ [] := by
      intro empty
      have room := exact.begun empty
      omega
    refine ih (exact.finish filled (Nat.le_of_lt_succ full) (fun empty => by cases empty) ?_)
    show contPreamble + (chunkPrefix + 0 + 0) + (size - contPreamble - chunkPrefix) = size
    omega

/-- The frames are exact while a batch is put down, and hold a chunk once it is not empty. -/
theorem exact_placeAll {parts : List Bytes} (laid : parts.foldlM (Layout.place size) l = .ok m)
    (large : contPreamble + 2 * chunkPrefix ≤ size) (exact : Exact size preamble l) :
    Exact size preamble m ∧ (parts ≠ [] → m.chunks ≠ []) := by
  induction parts generalizing l with
  | nil =>
    cases laid
    exact ⟨exact, fun filled => absurd rfl filled⟩
  | cons part rest ih =>
    rw [List.foldlM_cons] at laid
    obtain ⟨k, placed, laid⟩ := bind_eq_ok_iff.mp laid
    obtain ⟨next, filled⟩ := (placed_of_place placed).exact large exact
    obtain ⟨last, more⟩ := ih laid next
    refine ⟨last, fun _ => ?_⟩
    cases rest with
    | nil =>
      cases laid
      exact filled
    | cons second rest => exact more (by simp)

theorem exact_start (room : preamble + chunkPrefix ≤ size) :
    Exact size preamble ⟨[], [], size - preamble⟩ where
  total := by
    show preamble + 0 + (size - preamble) = size
    omega
  begun := by
    intro _
    show chunkPrefix ≤ size - preamble
    omega
  tight := trivial

end Layout

/-- Fragments that are full to within a byte, the last of them apart. -/
structure Fills (size preamble : Nat) (first : Fragment) (rest : List Fragment) : Prop where
  filled : ∀ f ∈ first :: rest, f.chunks ≠ []
  opening : rest ≠ [] → size ≤ preamble + sizeOf first.chunks + 1
  continuing : ∀ f ∈ rest.dropLast, size ≤ contPreamble + sizeOf f.chunks + 1

/-- The frames of a layout, the last of which is closed as it is. -/
theorem Layout.Exact.fills {size preamble : Nat} {l : Layout} (exact : Exact size preamble l)
    (filled : l.chunks ≠ []) (more : Bool) {first : Fragment} {rest : List Fragment}
    (closed : l.close more = first :: rest) : Fills size preamble first rest := by
  have turned : l.close more = l.closed.reverse ++ [⟨l.chunks.reverse, more⟩] := by
    rw [Layout.close, Layout.finish, List.reverse_cons]
  have holds : l.chunks.reverse ≠ [] := fun empty => filled (List.reverse_eq_nil_iff.mp empty)
  have tight := exact.tight
  rw [turned] at closed
  by_cases alone : l.closed = []
  · rw [alone] at closed
    cases closed
    exact ⟨by simpa using holds, fun more => absurd rfl more, by simp⟩
  · obtain ⟨others, start, split⟩ := exists_concat alone
    rw [split] at tight closed
    rw [List.reverse_concat, List.cons_append] at closed
    obtain ⟨rfl, rfl⟩ := List.cons.inj closed
    obtain ⟨all, opening, continuing⟩ := tight.of_concat
    refine ⟨?_, fun _ => opening, ?_⟩
    · intro f hf
      rcases List.mem_cons.mp hf with rfl | hf
      · exact all f List.mem_cons_self
      · rcases List.mem_append.mp hf with hf | hf
        · exact all f (List.mem_cons_of_mem _ (List.mem_reverse.mp hf))
        · cases List.mem_singleton.mp hf
          exact holds
    · intro f hf
      rw [List.dropLast_concat] at hf
      exact continuing f (List.mem_reverse.mp hf)

/-- **The fragments of a batch are full to within a byte,** all but the last, and each of them holds
a chunk. -/
theorem fills_of_ofParts {size preamble : Nat} {parts : List Bytes} {isLast : Bool}
    {first : Fragment} {rest : List Fragment}
    (cut : ofParts size preamble parts isLast = .ok (first :: rest)) (nonempty : parts ≠ [])
    (large : contPreamble + 2 * chunkPrefix ≤ size) : Fills size preamble first rest := by
  unfold ofParts at cut
  split at cut
  · cases cut
  · rename_i enough
    obtain ⟨space, hspace, laid⟩ := bind_eq_ok_iff.mp cut
    obtain ⟨l, hl, closed⟩ := bind_eq_ok_iff.mp laid
    obtain ⟨-, rfl⟩ := difference_eq_ok_iff.mp hspace
    obtain ⟨exact, filled⟩ :=
      Layout.exact_placeAll hl large (Layout.exact_start (Nat.not_lt.mp enough))
    exact exact.fills (filled nonempty) (!isLast) (Except.ok.inj closed)

end CallWire.Fragment
