import CallWire.Proofs.Fields

/-!
# What a reader has read

A reader that succeeds has read the string of its value, and stops right behind it: nothing else is
accepted in its place. This is the converse of reading back what was written.

* `Cursor.Spans`: the string of some segments stands between two cursors;
* `TextField.read_spans`, `Headers.readAll_spans`, `Checksum.read_spans`, `Chunks.read_spans`: what
  the readers of the parts of bodies have behind them.
-/

namespace CallWire

/-- The string of `segments` stands between two cursors in a buffer. -/
def Cursor.Spans (c : Cursor) (segments : List Segment) (d : Cursor) : Prop :=
  ∃ bs, Segment.bytes? segments = some bs ∧ c.beyond = false ∧ c.ahead = bs ++ d.ahead ∧
    d = ⟨c.pos + bs.length, d.ahead, false⟩

namespace Cursor.Spans

variable {c d e : Cursor} {front back : List Segment}

theorem nil (inside : c.beyond = false) : c.Spans [] c := by
  refine ⟨[], rfl, inside, rfl, ?_⟩
  cases c
  cases inside
  rfl

theorem inside (s : c.Spans front d) : d.beyond = false := by
  obtain ⟨bs, -, -, -, stop⟩ := s
  rw [stop]

theorem append (first : c.Spans front d) (second : d.Spans back e) : c.Spans (front ++ back) e := by
  obtain ⟨bs, hbs, inside, stands, stop⟩ := first
  obtain ⟨cs, hcs, -, onward, last⟩ := second
  refine ⟨bs ++ cs, Segment.bytes?_append_eq_some_iff.mpr ⟨bs, cs, hbs, hcs, rfl⟩, inside, ?_, ?_⟩
  · rw [stands, onward, List.append_assoc]
  · rw [last, stop, List.length_append, Nat.add_assoc]

end Cursor.Spans

namespace Reader

variable {α β : Type} {c d : Cursor}

/-- A reader made of two succeeds exactly if both do, the second where the first stops. -/
theorem bind_eq_ok_iff {r : Reader α} {f : α → Reader β} {b : β} :
    (r >>= f) c = .ok (b, d) ↔ ∃ a e, r c = .ok (a, e) ∧ f a e = .ok (b, d) := by
  show r c >>= (fun p => f p.1 p.2) = .ok (b, d) ↔ _
  rw [CallWire.bind_eq_ok_iff, Prod.exists]

theorem pure_eq_ok_iff {a b : α} : (pure a : Reader α) c = .ok (b, d) ↔ a = b ∧ c = d := by
  show Except.ok (a, c) = .ok (b, d) ↔ _
  simp

theorem map_eq_ok_iff {r : Reader α} {f : α → β} {b : β} :
    (f <$> r) c = .ok (b, d) ↔ ∃ a, r c = .ok (a, d) ∧ f a = b := by
  show r c >>= (fun p => .ok (f p.1, p.2)) = .ok (b, d) ↔ _
  rw [CallWire.bind_eq_ok_iff]
  simp

theorem take_spans {n : Nat} {bs : Bytes} (inside : c.beyond = false)
    (read : take n c = .ok (bs, d)) : bs.length = n ∧ c.Spans [.put bs] d := by
  unfold take at read
  rw [inside] at read
  split at read
  · rename_i room
    rw [Bytes.covers_iff] at room
    cases read
    have length : (c.ahead.take n).length = n := by
      rw [List.length_take, Nat.min_eq_left room]
    refine ⟨length, c.ahead.take n, Segment.bytes?_put _, inside, ?_, ?_⟩
    · exact (List.take_append_drop n c.ahead).symm
    · rw [length]
  · cases read

theorem number_spans {w n : Nat} (inside : c.beyond = false) (read : number w c = .ok (n, d)) :
    n < Bytes.capacity w ∧ c.Spans [.number w n] d := by
  obtain ⟨bs, taken, rfl⟩ := map_eq_ok_iff.mp read
  obtain ⟨rfl, spans⟩ := take_spans inside taken
  refine ⟨Bytes.ofBigEndian_lt bs, ?_⟩
  rw [Segment.number, Bytes.bigEndian_ofBigEndian]
  exact spans

theorem byte_spans {b : UInt8} (inside : c.beyond = false) (read : byte c = .ok (b, d)) :
    c.Spans [.byte b] d := by
  obtain ⟨n, taken, rfl⟩ := map_eq_ok_iff.mp read
  obtain ⟨-, spans⟩ := number_spans inside taken
  have one : Bytes.bigEndian 1 n = [UInt8.ofNat n] := by simp [Bytes.bigEndian, Bytes.capacity]
  rwa [Segment.number, one] at spans

theorem word16_spans {n : UInt16} (inside : c.beyond = false) (read : word16 c = .ok (n, d)) :
    c.Spans [.word16 n] d := by
  obtain ⟨m, taken, rfl⟩ := map_eq_ok_iff.mp read
  obtain ⟨small, spans⟩ := number_spans inside taken
  rwa [Segment.word16, UInt16.toNat_ofNat_of_lt' small]

theorem word32_spans {n : UInt32} (inside : c.beyond = false) (read : word32 c = .ok (n, d)) :
    c.Spans [.word32 n] d := by
  obtain ⟨m, taken, rfl⟩ := map_eq_ok_iff.mp read
  obtain ⟨small, spans⟩ := number_spans inside taken
  rwa [Segment.word32, UInt32.toNat_ofNat_of_lt' small]

theorem tracing_spans {t : Tracing} (inside : c.beyond = false) (read : tracing c = .ok (t, d)) :
    c.Spans [.tracing t] d := by
  obtain ⟨bs, taken, rfl⟩ := map_eq_ok_iff.mp read
  obtain ⟨length, spans⟩ := take_spans inside taken
  rwa [Segment.tracing, Tracing.bytes_ofBytes length]

theorem count_spans {w : Width} {n : Nat} (inside : c.beyond = false)
    (read : count w c = .ok (n, d)) : n ≤ w.limit ∧ c.Spans [.count w n] d := by
  obtain ⟨small, spans⟩ := number_spans inside read
  refine ⟨?_, spans⟩
  cases w <;> exact Nat.le_of_lt_succ small

end Reader

variable {c d : Cursor}

theorem TextField.read_spans {w : Width} {s : String} (inside : c.beyond = false)
    (read : TextField.read w c = .ok (s, d)) : c.Spans (segments w s) d := by
  obtain ⟨n, c₁, counted, read⟩ := Reader.bind_eq_ok_iff.mp read
  obtain ⟨start, c₂, here, read⟩ := Reader.bind_eq_ok_iff.mp read
  cases here
  obtain ⟨bs, c₃, taken, read⟩ := Reader.bind_eq_ok_iff.mp read
  obtain ⟨small, front⟩ := Reader.count_spans inside counted
  obtain ⟨length, back⟩ := Reader.take_spans front.inside taken
  cases decoded : Text.decode? bs with
  | none =>
    rw [decoded] at read
    cases read
  | some t =>
    rw [decoded] at read
    obtain ⟨rfl, rfl⟩ := Reader.pure_eq_ok_iff.mp read
    rw [Text.decode?_eq_some_iff] at decoded
    subst decoded length
    rw [Text.length_encode] at small front
    rw [segments, if_neg (Nat.not_lt.mpr small)]
    exact front.append back

namespace Headers

/-- Reads the pairs of a header map as they stand on the wire. -/
def readAll (w : Width) : Reader (List (String × String)) := do
  let n ← Reader.count w
  readPairs w n

/-- Reading a header map is collecting its pairs. -/
theorem read_eq_ok_iff {w : Width} {h : Headers} :
    read w c = .ok (h, d) ↔ ∃ pairs, readAll w c = .ok (pairs, d) ∧ collect pairs = h := by
  have same : read w = collect <$> readAll w := by
    simp only [read, readAll, map_eq_pure_bind, bind_assoc]
  rw [same, Reader.map_eq_ok_iff]

theorem readPairs_spans {w : Width} {n : Nat} {pairs : List (String × String)}
    (inside : c.beyond = false) (read : readPairs w n c = .ok (pairs, d)) :
    pairs.length = n ∧ c.Spans (entrySegments w pairs) d := by
  induction n generalizing c pairs with
  | zero =>
    obtain ⟨rfl, rfl⟩ := Reader.pure_eq_ok_iff.mp read
    exact ⟨rfl, .nil inside⟩
  | succ n ih =>
    obtain ⟨key, c₁, hkey, read⟩ := Reader.bind_eq_ok_iff.mp read
    obtain ⟨value, c₂, hvalue, read⟩ := Reader.bind_eq_ok_iff.mp read
    obtain ⟨rest, c₃, hrest, read⟩ := Reader.bind_eq_ok_iff.mp read
    obtain ⟨rfl, rfl⟩ := Reader.pure_eq_ok_iff.mp read
    have front := TextField.read_spans inside hkey
    have middle := TextField.read_spans front.inside hvalue
    obtain ⟨rfl, back⟩ := ih middle.inside hrest
    exact ⟨rfl, (front.append middle).append back⟩

theorem readAll_spans {w : Width} {pairs : List (String × String)} (inside : c.beyond = false)
    (read : readAll w c = .ok (pairs, d)) : c.Spans (segments w ⟨pairs⟩) d := by
  obtain ⟨n, c₁, counted, read⟩ := Reader.bind_eq_ok_iff.mp read
  obtain ⟨small, front⟩ := Reader.count_spans inside counted
  obtain ⟨rfl, back⟩ := readPairs_spans front.inside read
  have fits : ¬ w.limit < size ⟨pairs⟩ := Nat.not_lt.mpr small
  rw [segments, if_neg fits]
  exact front.append back

end Headers

theorem Checksum.read_spans {k : Checksum} (inside : c.beyond = false)
    (read : Checksum.read c = .ok (k, d)) : c.Spans k.segments d := by
  obtain ⟨n, c₁, typed, read⟩ := Reader.bind_eq_ok_iff.mp read
  have front := Reader.byte_spans inside typed
  cases known : ChecksumType.ofNumber? n with
  | none =>
    rw [known] at read
    cases read
  | some type =>
    rw [known] at read
    rw [← ChecksumType.number_of_ofNumber? known] at front
    cases type with
    | none =>
      obtain ⟨rfl, rfl⟩ := Reader.pure_eq_ok_iff.mp read
      exact front
    | crc32 | farmhash32 | crc32c =>
      obtain ⟨value, c₂, valued, read⟩ := Reader.bind_eq_ok_iff.mp read
      obtain ⟨rfl, rfl⟩ := Reader.pure_eq_ok_iff.mp read
      exact front.append (Reader.word32_spans front.inside valued)

namespace Chunks

/-- Chunks are read up to the end of the buffer. -/
theorem readUpTo_spans {room : Nat} {chunks : List Bytes} (inside : c.beyond = false)
    (read : readUpTo room c = .ok (chunks, d)) :
    chunks.length ≤ room ∧ (∀ chunk ∈ chunks, chunk.length ≤ Width.wide.limit) ∧
      c.Spans (chunkSegments chunks) d ∧ d.ahead = [] := by
  induction room generalizing c chunks with
  | zero =>
    obtain ⟨last, c₁, here, read⟩ := Reader.bind_eq_ok_iff.mp read
    cases here
    cases ended : c.ahead with
    | nil =>
      rw [ended] at read
      obtain ⟨rfl, rfl⟩ := Reader.pure_eq_ok_iff.mp read
      exact ⟨Nat.le_refl 0, by simp, .nil inside, ended⟩
    | cons b more =>
      rw [ended] at read
      cases read
  | succ room ih =>
    obtain ⟨last, c₁, here, read⟩ := Reader.bind_eq_ok_iff.mp read
    cases here
    cases ended : c.ahead with
    | nil =>
      rw [ended] at read
      obtain ⟨rfl, rfl⟩ := Reader.pure_eq_ok_iff.mp read
      exact ⟨Nat.zero_le _, by simp, .nil inside, ended⟩
    | cons b more =>
      rw [ended] at read
      obtain ⟨n, c₂, counted, read⟩ := Reader.bind_eq_ok_iff.mp read
      obtain ⟨chunk, c₃, taken, read⟩ := Reader.bind_eq_ok_iff.mp read
      obtain ⟨rest, c₄, onward, read⟩ := Reader.bind_eq_ok_iff.mp read
      obtain ⟨rfl, rfl⟩ := Reader.pure_eq_ok_iff.mp read
      obtain ⟨small, front⟩ := Reader.count_spans inside counted
      obtain ⟨rfl, middle⟩ := Reader.take_spans front.inside taken
      obtain ⟨few, others, back, done⟩ := ih middle.inside onward
      refine ⟨Nat.succ_le_succ few, ?_, (front.append middle).append back, done⟩
      intro k hk
      rcases List.mem_cons.mp hk with rfl | hk
      · exact small
      · exact others k hk

/-- Few chunks that are small enough are written as they are. -/
theorem segments_of_fits {chunks : List Bytes} (few : chunks.length ≤ limit)
    (small : ∀ chunk ∈ chunks, chunk.length ≤ Width.wide.limit) :
    segments chunks = chunkSegments chunks := by
  have counted : ∃ n, sizes chunks = .ok n := by
    clear few
    induction chunks with
    | nil => exact ⟨0, rfl⟩
    | cons chunk rest ih =>
      obtain ⟨n, more⟩ := ih fun k hk => small k (List.mem_cons_of_mem _ hk)
      have fits := Nat.not_lt.mpr (small chunk List.mem_cons_self)
      exact ⟨_, by rw [sizes, if_neg fits, more]; rfl⟩
  obtain ⟨n, counted⟩ := counted
  rw [segments, length, if_neg (Nat.not_lt.mpr few), counted]
  rfl

theorem read_spans {chunks : List Bytes} (inside : c.beyond = false)
    (read : Chunks.read c = .ok (chunks, d)) : c.Spans (segments chunks) d ∧ d.ahead = [] := by
  obtain ⟨few, small, spans, done⟩ := readUpTo_spans inside read
  rw [segments_of_fits few small]
  exact ⟨spans, done⟩

end Chunks

end CallWire
