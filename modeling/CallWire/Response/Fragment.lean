import CallWire.Arguments
import CallWire.Fault

/-!
# Cutting arguments into frames

A batch of argument parts is laid out over frames whose bodies have a largest size. Each part is
put down as a chunk behind a count of two bytes. A part that does not fit the rest of a frame is
cut, and goes on as the first chunk of the next frame. Where not even a count fits, the frame is
closed and the next one begins with an empty chunk, which stands for the end of the argument before.
-/

namespace CallWire

/-- The chunks of one frame, and whether more frames follow. -/
structure Fragment where
  chunks : List Bytes
  more : Bool
  deriving DecidableEq

namespace Fragment

/-- What a continuation frame holds besides its chunks: flags and checksum type. -/
def contPreamble : Nat := 2

def chunkPrefix : Nat := 2

structure Layout where
  /-- The frames that are full, last one first. -/
  closed : List Fragment
  /-- The chunks of the frame that is being filled, last one first. -/
  chunks : List Bytes
  /-- How many bytes it has left. -/
  space : Nat

/-- The frames with the one that is being filled in front, last one first. -/
def Layout.finish (l : Layout) (more : Bool) : List Fragment := ⟨l.chunks.reverse, more⟩ :: l.closed

/-- The frames in order, the last of which is as full as it gets. -/
def Layout.close (l : Layout) (more : Bool) : List Fragment := (l.finish more).reverse

/-- Begins another frame unless the current one has room for the count of a chunk. -/
def Layout.makeRoom (size : Nat) (l : Layout) : Outcome Layout :=
  if l.space < chunkPrefix then do
    let left ← difference size contPreamble
    let space ← difference left chunkPrefix
    return { closed := l.finish true, chunks := [[]], space }
  else return l

/-- The room of the frame in which the next chunk begins. -/
def Layout.nextSpace (size : Nat) (l : Layout) : Nat :=
  if l.space < chunkPrefix then size - contPreamble - chunkPrefix else l.space

theorem Layout.space_makeRoom {size : Nat} {l m : Layout} (h : l.makeRoom size = .ok m) :
    m.space = l.nextSpace size := by
  unfold makeRoom at h
  unfold nextSpace
  split at h
  · rename_i small
    rw [if_pos small]
    cases h1 : (difference size contPreamble : Outcome Nat) with
    | error fault => simp [h1, bind, Except.bind] at h
    | ok left =>
      cases h2 : (difference left chunkPrefix : Outcome Nat) with
      | error fault => simp [h1, h2, bind, Except.bind] at h
      | ok space =>
        simp only [h1, h2, bind, Except.bind, pure, Except.pure, Except.ok.injEq] at h
        obtain ⟨_, rfl⟩ := difference_eq_ok_iff.mp h1
        obtain ⟨_, rfl⟩ := difference_eq_ok_iff.mp h2
        rw [← h]
  · rename_i small
    rw [if_neg small]
    cases h
    rfl

/-- The first `n` bytes, all of which must be there, and the rest. -/
def cut (n : Nat) (bs : Bytes) : Outcome (Bytes × Bytes) :=
  if Bytes.covers n bs then .ok (bs.take n, bs.drop n) else .error (.breach .outOfRange)

theorem length_cut {n : Nat} {bs head rest : Bytes} (h : cut n bs = .ok (head, rest)) :
    rest.length = bs.length - n := by
  unfold cut at h
  split at h
  · cases h
    exact List.length_drop
  · cases h

/-- Puts a part down, in as many frames of the given body size as it takes. -/
def Layout.place (size : Nat) (l : Layout) (part : Bytes) : Outcome Layout :=
  match _room : l.makeRoom size with
  | .error fault => .error fault
  | .ok m =>
      match _space : (difference m.space chunkPrefix : Outcome Nat) with
      | .error fault => .error fault
      | .ok space =>
          if _fits : Bytes.fits space part then
            .ok { m with chunks := part :: m.chunks, space := space - part.length }
          else
            match _cut : cut space part with
            | .error fault => .error fault
            | .ok (head, rest) =>
                match _next : (difference size contPreamble : Outcome Nat) with
                | .error fault => .error fault
                | .ok next =>
                    if _moves : space = 0 ∧ next ≤ chunkPrefix then .error (.breach .stalled)
                    else
                      place size
                        { closed := { m with chunks := head :: m.chunks }.finish true
                          chunks := []
                          space := next }
                        rest
termination_by 2 * part.length + if l.nextSpace size ≤ chunkPrefix then 1 else 0
decreasing_by
  have hm := space_makeRoom _room
  have hs := difference_eq_ok_iff.mp _space
  have hn := difference_eq_ok_iff.mp _next
  have hr := length_cut _cut
  have hf : ¬ part.length ≤ space := fun h => _fits (Bytes.fits_iff.mpr h)
  rw [← hm]
  by_cases still : space = 0
  · have hroom (c : List Fragment) : nextSpace size ⟨c, [], next⟩ = next :=
      if_neg (show ¬ next < chunkPrefix by omega)
    rw [hroom, if_neg (show ¬ next ≤ chunkPrefix by omega), if_pos (by omega)]
    omega
  · have hle (p : Prop) [Decidable p] : (if p then 1 else 0) ≤ 1 := by split <;> omega
    have := hle (nextSpace size ⟨{ m with chunks := head :: m.chunks }.finish true, [], next⟩ ≤ chunkPrefix)
    omega

/-- The fragments that carry the parts, the first in a frame with `preamble` bytes besides its
chunks, none with a body larger than `size`. The last fragment announces more unless `isLast`. -/
def ofParts (size preamble : Nat) (parts : List Bytes) (isLast : Bool) : Outcome (List Fragment) :=
  if size < preamble + chunkPrefix then refuse (.frameTooLarge (preamble + chunkPrefix))
  else do
    let space ← difference size preamble
    let l ← parts.foldlM (Layout.place size) ⟨[], [], space⟩
    return l.close (!isLast)

end Fragment

end CallWire
