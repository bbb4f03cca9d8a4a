import CallWire.Call
import CallWire.Proofs.Reassembly
import CallWire.Response.Fragment

/-!
# Cutting loses nothing

Laying out a batch of parts succeeds whenever its first frame has room for the count of a chunk
(`ofParts_ok`). Joined again, the chunks are the parts; only the last frame may announce that
nothing follows, no frame is larger than allowed, and none has more chunks than there are parts
(`carries_of_ofParts`).

The layout of one part is followed step by step (`Layout.Placed`), and what is known of the frames
so far is an invariant of these steps (`Layout.Sound`).
-/

namespace CallWire.Fragment

/-- The size of chunks with their counts. -/
def sizeOf : List Bytes → Nat
  | [] => 0
  | chunk :: rest => chunkPrefix + chunk.length + sizeOf rest

/-- No body is larger than `size`; the last in the list is the first frame, with a `preamble`. -/
def Sized (size preamble : Nat) : List Fragment → Prop
  | [] => True
  | [f] => preamble + sizeOf f.chunks ≤ size
  | f :: rest => contPreamble + sizeOf f.chunks ≤ size ∧ Sized size preamble rest

theorem cut_eq_ok {n : Nat} {bs head rest : Bytes} (h : cut n bs = .ok (head, rest)) :
    bs = head ++ rest ∧ head.length = n := by
  unfold cut at h
  split at h
  · rename_i covers
    cases h
    exact ⟨(List.take_append_drop n bs).symm,
      List.length_take_of_le (Bytes.covers_iff.mp covers)⟩
  · cases h

namespace Layout

/-- How a part is put down: whole, cut at the end of the frame, or in a frame opened for it. -/
inductive Placed (size : Nat) : Layout → Bytes → Layout → Prop where
  | whole {l : Layout} {part : Bytes} (fits : chunkPrefix + part.length ≤ l.space) :
      Placed size l part
        { l with chunks := part :: l.chunks, space := l.space - chunkPrefix - part.length }
  | cut {l m : Layout} {head rest : Bytes} (full : l.space = chunkPrefix + head.length)
      (onward : Placed size
        ⟨{ l with chunks := head :: l.chunks }.finish true, [], size - contPreamble⟩ rest m) :
      Placed size l (head ++ rest) m
  | opened {l m : Layout} {part : Bytes} (full : l.space < chunkPrefix)
      (onward : Placed size ⟨l.finish true, [[]], size - contPreamble - chunkPrefix⟩ part m) :
      Placed size l part m

theorem placed_of_makeRoom {size : Nat} {l r m : Layout} {part : Bytes}
    (h : l.makeRoom size = .ok r) (placed : Placed size r part m) : Placed size l part m := by
  unfold makeRoom at h
  split at h
  · rename_i small
    obtain ⟨left, hleft, h⟩ := bind_eq_ok_iff.mp h
    obtain ⟨space, hspace, h⟩ := bind_eq_ok_iff.mp h
    obtain ⟨-, rfl⟩ := difference_eq_ok_iff.mp hleft
    obtain ⟨-, rfl⟩ := difference_eq_ok_iff.mp hspace
    cases h
    exact .opened small placed
  · cases h
    exact placed

theorem placed_of_place {size : Nat} {l m : Layout} {part : Bytes} (h : l.place size part = .ok m) :
    Placed size l part m := by
  fun_induction Layout.place size l part with
  | case3 l part r room space left fits =>
    obtain ⟨enough, rfl⟩ := difference_eq_ok_iff.mp left
    have short := Bytes.fits_iff.mp fits
    cases h
    exact placed_of_makeRoom room (.whole (by omega))
  | case7 l part r room space left long head rest parted next following moves ih =>
    obtain ⟨enough, rfl⟩ := difference_eq_ok_iff.mp left
    obtain ⟨rfl, length⟩ := cut_eq_ok parted
    obtain ⟨-, rfl⟩ := difference_eq_ok_iff.mp following
    exact placed_of_makeRoom room (.cut (by omega) (ih h))
  | case1 | case2 | case4 | case5 | case6 => cases h

theorem makeRoom_ok {size : Nat} (large : contPreamble + 2 * chunkPrefix ≤ size) (l : Layout) :
    ∃ m, l.makeRoom size = .ok m ∧ chunkPrefix ≤ m.space := by
  unfold makeRoom
  split
  · have left : (difference size contPreamble : Outcome Nat) = .ok (size - contPreamble) :=
      difference_eq_ok_iff.mpr ⟨by omega, rfl⟩
    have space : (difference (size - contPreamble) chunkPrefix : Outcome Nat) =
        .ok (size - contPreamble - chunkPrefix) := difference_eq_ok_iff.mpr ⟨by omega, rfl⟩
    refine ⟨⟨l.finish true, [[]], size - contPreamble - chunkPrefix⟩, ?_, ?_⟩
    · rw [left]
      exact bind_eq_ok_iff.mpr ⟨_, rfl, bind_eq_ok_iff.mpr ⟨_, space, rfl⟩⟩
    · show chunkPrefix ≤ size - contPreamble - chunkPrefix
      omega
  · rename_i enough
    exact ⟨l, rfl, Nat.not_lt.mp enough⟩

/-- Any part can be put down where a frame has room for two counts besides its preamble. -/
theorem place_ok {size : Nat} (large : contPreamble + 2 * chunkPrefix ≤ size) (l : Layout)
    (part : Bytes) : ∃ m, l.place size part = .ok m := by
  have rooms {l r : Layout} (room : l.makeRoom size = .ok r) : chunkPrefix ≤ r.space := by
    obtain ⟨m, hm, enough⟩ := makeRoom_ok large l
    rw [hm] at room
    cases room
    exact enough
  have preamble : contPreamble ≤ size := by omega
  fun_induction Layout.place size l part with
  | case1 l part fault room =>
    obtain ⟨m, hm, -⟩ := makeRoom_ok large l
    rw [hm] at room
    cases room
  | case2 l part r room fault left =>
    rw [difference_eq_ok_iff.mpr ⟨rooms room, rfl⟩] at left
    cases left
  | case3 => exact ⟨_, rfl⟩
  | case4 l part r room space left long fault parted =>
    have covers : Bytes.covers space part = true := by
      rw [Bytes.covers_iff]
      exact Nat.le_of_not_le fun short => long (Bytes.fits_iff.mpr short)
    rw [cut, if_pos covers] at parted
    cases parted
  | case5 l part r room space left long head rest parted fault following =>
    rw [difference_eq_ok_iff.mpr ⟨preamble, rfl⟩] at following
    cases following
  | case6 l part r room space left long head rest parted next following stalls =>
    obtain ⟨-, rfl⟩ := difference_eq_ok_iff.mp following
    simp only [chunkPrefix] at *
    omega
  | case7 l part r room space left long head rest parted next following moves ih => exact ih

/-- The chunks of all frames joined, those of the frame that is being filled included. -/
def flow (l : Layout) : List Bytes :=
  joinBatch (joinAll (l.closed.reverse.map (·.chunks))) l.chunks.reverse

theorem flow_finish (l : Layout) (more : Bool) (chunks : List Bytes) (space : Nat) :
    flow ⟨l.finish more, chunks, space⟩ = joinBatch l.flow chunks.reverse := by
  simp [flow, finish, joinAll_append, joinAll_singleton]

/-- What holds of the frames while parts are put down, `n` of them so far. -/
structure Sound (size preamble limit n : Nat) (l : Layout) : Prop where
  begun : l.chunks = [] → chunkPrefix ≤ l.space
  few : l.chunks.length ≤ n
  fewBefore : ∀ f ∈ l.closed, f.chunks.length ≤ limit
  marked : ∀ f ∈ l.closed, f.more = true
  sized : ∀ chunks more, sizeOf chunks ≤ sizeOf l.chunks + l.space →
    Sized size preamble (⟨chunks, more⟩ :: l.closed)

theorem sizeOf_append (front back : List Bytes) :
    sizeOf (front ++ back) = sizeOf front + sizeOf back := by
  induction front with
  | nil => simp [sizeOf]
  | cons chunk rest ih => simp only [List.cons_append, sizeOf, ih, Nat.add_assoc]

theorem sizeOf_reverse (chunks : List Bytes) : sizeOf chunks.reverse = sizeOf chunks := by
  induction chunks with
  | nil => rfl
  | cons chunk rest ih =>
    rw [List.reverse_cons, sizeOf_append, ih]
    simp only [sizeOf]
    omega

/-- A frame that is closed with all its chunks leaves what came before as it was. -/
theorem Sound.finish {size preamble limit n k : Nat} {l : Layout}
    (sound : Sound size preamble limit n l) (within : n ≤ limit) {chunks : List Bytes} {space : Nat}
    (begun : chunks = [] → chunkPrefix ≤ space) (few : chunks.length ≤ k)
    (next : contPreamble + (sizeOf chunks + space) ≤ size) :
    Sound size preamble limit k ⟨l.finish true, chunks, space⟩ where
  begun := begun
  few := few
  fewBefore := by
    intro f hf
    rcases List.mem_cons.mp hf with rfl | hf
    · simpa using Nat.le_trans sound.few within
    · exact sound.fewBefore f hf
  marked := by
    intro f hf
    rcases List.mem_cons.mp hf with rfl | hf
    · rfl
    · exact sound.marked f hf
  sized := by
    intro other more fits
    refine ⟨Nat.le_trans (Nat.add_le_add_left fits _) next, ?_⟩
    apply sound.sized
    rw [sizeOf_reverse]
    exact Nat.le_add_right _ _

/-- Putting a chunk down that fits. -/
theorem Sound.push {size preamble limit n : Nat} {l : Layout}
    (sound : Sound size preamble limit n l) {chunk : Bytes} {space : Nat}
    (fits : chunkPrefix + chunk.length + space ≤ l.space) :
    Sound size preamble limit (n + 1) { l with chunks := chunk :: l.chunks, space } where
  begun := fun empty => by cases empty
  few := Nat.succ_le_succ sound.few
  fewBefore := sound.fewBefore
  marked := sound.marked
  sized := by
    intro other more fits'
    refine sound.sized other more (Nat.le_trans fits' ?_)
    show sizeOf (chunk :: l.chunks) + space ≤ _
    simp only [sizeOf]
    omega

theorem Placed.sound {size preamble limit n : Nat} {l m : Layout} {part : Bytes}
    (placed : Placed size l part m) (large : contPreamble + chunkPrefix ≤ size) (within : n < limit)
    (sound : Sound size preamble limit n l) :
    Sound size preamble limit (n + 1) m ∧ m.chunks ≠ [] := by
  induction placed with
  | whole fits => exact ⟨sound.push (by omega), by simp⟩
  | @cut l m head rest full onward ih =>
    have fits : chunkPrefix + head.length + (l.space - chunkPrefix - head.length) ≤ l.space := by
      omega
    have pushed := sound.push fits
    refine ih (pushed.finish within (fun _ => by omega) (Nat.zero_le n) ?_)
    show contPreamble + (0 + (size - contPreamble)) ≤ size
    omega
  | @opened l m part full onward ih =>
    have begun : l.chunks ≠ [] := fun empty => by
      have room := sound.begun empty
      omega
    have filled := List.length_pos_iff.mpr begun
    have few := sound.few
    refine ih (sound.finish (Nat.le_of_lt within) (fun empty => by cases empty) ?_ ?_)
    · show 1 ≤ n
      omega
    · show contPreamble + (chunkPrefix + (size - contPreamble - chunkPrefix)) ≤ size
      omega

/-- However a part is put down, it is as if it had been put down whole. -/
theorem Placed.flow_eq {size : Nat} {l m : Layout} {part : Bytes} (placed : Placed size l part m)
    (large : contPreamble + chunkPrefix ≤ size) (begun : l.chunks = [] → chunkPrefix ≤ l.space) :
    m.flow = flow { l with chunks := part :: l.chunks } := by
  induction placed with
  | whole fits => rfl
  | @cut l m head rest full onward ih =>
    rw [ih (fun _ => show chunkPrefix ≤ size - contPreamble by omega), flow_finish]
    simp only [flow, List.reverse_cons, List.reverse_nil, List.nil_append, joinBatch_assoc,
      joinBatch_concat]
  | @opened l m part full onward ih =>
    have filled : l.chunks.reverse ≠ [] := fun empty => by
      have room := begun (List.reverse_eq_nil_iff.mp empty)
      omega
    rw [ih (fun empty => by cases empty), flow_finish]
    simp only [flow, List.reverse_cons, List.reverse_nil, List.nil_append, List.singleton_append,
      joinBatch_assoc, joinBatch_empty_chunk filled]

/-- A part that is put down opens the next argument. -/
theorem flow_push {l : Layout} (begun : l.chunks = [] → l.closed = []) (part : Bytes) :
    flow { l with chunks := part :: l.chunks } = l.flow ++ [part] := by
  by_cases empty : l.chunks = []
  · simp [flow, empty, begun empty, joinAll, joinBatch]
  · have filled : l.chunks.reverse ≠ [] := fun turned => empty (List.reverse_eq_nil_iff.mp turned)
    simp only [flow, List.reverse_cons, joinBatch_append_right _ filled]

/-- A batch of parts is put down after what a layout holds, each part opening an argument. -/
theorem placeAll {size preamble limit n : Nat} {l m : Layout} {parts : List Bytes}
    (h : parts.foldlM (Layout.place size) l = .ok m) (large : contPreamble + chunkPrefix ≤ size)
    (within : n + parts.length ≤ limit) (sound : Sound size preamble limit n l)
    (begun : l.chunks = [] → l.closed = []) :
    Sound size preamble limit (n + parts.length) m ∧ m.flow = l.flow ++ parts := by
  induction parts generalizing l n with
  | nil =>
    cases h
    exact ⟨sound, (List.append_nil _).symm⟩
  | cons part rest ih =>
    rw [List.length_cons] at within
    rw [List.foldlM_cons] at h
    obtain ⟨k, hk, h⟩ := bind_eq_ok_iff.mp h
    have placed := placed_of_place hk
    obtain ⟨next, filled⟩ := placed.sound large (by omega) sound
    obtain ⟨last, flow⟩ := ih h (by omega) next fun empty => absurd empty filled
    rw [placed.flow_eq large sound.begun, flow_push begun, List.append_assoc] at flow
    refine ⟨?_, flow⟩
    rwa [List.length_cons, Nat.add_comm rest.length, ← Nat.add_assoc]

end Layout

theorem Sized.of_concat {size preamble : Nat} {rest : List Fragment} {first : Fragment}
    (sized : Sized size preamble (rest ++ [first])) :
    preamble + sizeOf first.chunks ≤ size ∧
      ∀ f ∈ rest, contPreamble + sizeOf f.chunks ≤ size := by
  induction rest with
  | nil => exact ⟨sized, by simp⟩
  | cons f rest ih =>
    obtain ⟨here, before⟩ : contPreamble + sizeOf f.chunks ≤ size ∧
        Sized size preamble (rest ++ [first]) := by
      cases rest with
      | nil => exact sized
      | cons g rest => exact sized
    obtain ⟨start, others⟩ := ih before
    refine ⟨start, ?_⟩
    intro g hg
    rcases List.mem_cons.mp hg with rfl | hg
    · exact here
    · exact others g hg

/-- Fragments that carry the parts of a batch within bodies of the given size. -/
structure Carries (size preamble : Nat) (parts : List Bytes) (more : Bool) (first : Fragment)
    (rest : List Fragment) : Prop where
  joined : joinAll ((first :: rest).map (·.chunks)) = parts
  marked : ∃ front last, first :: rest = front ++ [last] ∧ (∀ f ∈ front, f.more = true) ∧
    last.more = more
  few : ∀ f ∈ first :: rest, f.chunks.length ≤ parts.length
  opening : preamble + sizeOf first.chunks ≤ size
  continuing : ∀ f ∈ rest, contPreamble + sizeOf f.chunks ≤ size

/-- The frames are sound before any part has been put down. -/
theorem Layout.sound_start {size preamble : Nat} (limit : Nat)
    (room : preamble + chunkPrefix ≤ size) :
    Sound size preamble limit 0 ⟨[], [], size - preamble⟩ where
  begun := by
    intro _
    show chunkPrefix ≤ size - preamble
    omega
  few := Nat.le_refl 0
  fewBefore := by simp
  marked := by simp
  sized := by
    intro chunks more fits
    have within : sizeOf chunks ≤ 0 + (size - preamble) := fits
    show preamble + sizeOf chunks ≤ size
    omega

/-- Sound frames carry the parts that were put down. -/
theorem Layout.Sound.carries {size preamble : Nat} {parts : List Bytes} {l : Layout}
    (sound : Sound size preamble parts.length parts.length l) (flow : l.flow = parts)
    (more : Bool) :
    ∃ first rest, l.close more = first :: rest ∧ Carries size preamble parts more first rest := by
  have all : (l.close more).map (·.chunks) =
      l.closed.reverse.map (·.chunks) ++ [l.chunks.reverse] := by
    simp [Layout.close, Layout.finish]
  have filled : l.finish more ≠ [] := by simp [Layout.finish]
  have sized : Sized size preamble (l.finish more) := by
    apply sound.sized
    rw [Layout.sizeOf_reverse]
    exact Nat.le_add_right _ _
  obtain ⟨others, first, split⟩ := exists_concat filled
  have turned : l.close more = first :: others.reverse := by
    rw [Layout.close, split, List.reverse_append]
    rfl
  rw [split] at sized
  obtain ⟨opening, continuing⟩ := sized.of_concat
  refine ⟨first, others.reverse, turned, ?_, ?_, ?_, opening, ?_⟩
  · rw [← turned, all, joinAll_append, joinAll_singleton]
    exact flow
  · refine ⟨l.closed.reverse, ⟨l.chunks.reverse, more⟩, ?_, ?_, rfl⟩
    · rw [← turned, Layout.close, Layout.finish, List.reverse_cons]
    · exact fun f hf => sound.marked f (List.mem_reverse.mp hf)
  · intro f hf
    rw [← turned, Layout.close, List.mem_reverse] at hf
    rcases List.mem_cons.mp hf with rfl | hf
    · simpa using sound.few
    · exact sound.fewBefore f hf
  · exact fun f hf => continuing f (List.mem_reverse.mp hf)

/-- **The fragments of a batch carry its parts:** joined again they are the parts, all but the last
announce more, and they keep to the size that was set. -/
theorem carries_of_ofParts {size preamble : Nat} {parts : List Bytes} {isLast : Bool}
    {fragments : List Fragment} (h : ofParts size preamble parts isLast = .ok fragments)
    (large : contPreamble + chunkPrefix ≤ size) :
    ∃ first rest, fragments = first :: rest ∧ Carries size preamble parts (!isLast) first rest := by
  unfold ofParts at h
  split at h
  · cases h
  · rename_i enough
    obtain ⟨space, hspace, laid⟩ := bind_eq_ok_iff.mp h
    obtain ⟨l, hl, closed⟩ := bind_eq_ok_iff.mp laid
    obtain ⟨-, rfl⟩ := difference_eq_ok_iff.mp hspace
    cases closed
    have start := Layout.sound_start parts.length (Nat.not_lt.mp enough)
    obtain ⟨sound, flow⟩ := Layout.placeAll hl large (by simp) start fun _ => rfl
    rw [Nat.zero_add] at sound
    exact sound.carries flow (!isLast)

/-- A batch is cut whenever its first frame has room for the count of a chunk. -/
theorem ofParts_ok {size preamble : Nat} (large : contPreamble + 2 * chunkPrefix ≤ size)
    (room : preamble + chunkPrefix ≤ size) (parts : List Bytes) (isLast : Bool) :
    ∃ fragments, ofParts size preamble parts isLast = .ok fragments := by
  have placed (l : Layout) : ∃ m, parts.foldlM (Layout.place size) l = .ok m := by
    induction parts generalizing l with
    | nil => exact ⟨l, rfl⟩
    | cons part rest ih =>
      obtain ⟨k, hk⟩ := Layout.place_ok large l part
      obtain ⟨m, hm⟩ := ih k
      rw [List.foldlM_cons]
      exact ⟨m, bind_eq_ok_iff.mpr ⟨k, hk, hm⟩⟩
  have space : (difference size preamble : Outcome Nat) = .ok (size - preamble) :=
    difference_eq_ok_iff.mpr ⟨by omega, rfl⟩
  obtain ⟨m, hm⟩ := placed ⟨[], [], size - preamble⟩
  refine ⟨m.close (!isLast), ?_⟩
  unfold ofParts
  rw [if_neg (Nat.not_lt.mpr room)]
  exact bind_eq_ok_iff.mpr ⟨_, space, bind_eq_ok_iff.mpr ⟨m, hm, rfl⟩⟩

end CallWire.Fragment
