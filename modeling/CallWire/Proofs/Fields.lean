import CallWire.Checksum
import CallWire.Chunks
import CallWire.Headers.Wire
import CallWire.Proofs.Reading

/-!
# Fields read back

The parts that bodies are made of: texts, header maps, checksums and argument chunks. Each is read
back from what is written for it.

* `undoes_text`, `undoes_headers`, `undoes_checksum`: reading stops where the field ends, whatever
  follows;
* `undoes_chunks`: chunks are read back if the buffer ends behind them.

A header map that names a key twice would be read back without the repetition, and the value of a
checksum without a type is not written at all (`Checksum.canonical`).
-/

namespace CallWire

theorem undoes_count {w : Width} {n : Nat} (small : n ≤ w.limit) (rest : Bytes) :
    Undoes (Reader.count w) [.count w n] rest n :=
  undoes_number (Nat.lt_of_le_of_lt small w.limit_lt) rest

theorem undoes_text (w : Width) (s : String) (rest : Bytes) :
    Undoes (TextField.read w) (TextField.segments w s) rest s := by
  unfold TextField.segments
  split
  · intro bs hbs
    cases hbs
  · rename_i fits
    apply Undoes.cons
    · exact undoes_count (Nat.not_lt.mp fits)
    · apply Undoes.position
      intro start
      apply Undoes.cons
      · exact undoes_take (Text.length_encode s)
      · rw [Text.decode?_encode]
        exact .pure s rest

namespace Headers

theorem undoes_readPairs (w : Width) (es : List (String × String)) (rest : Bytes) :
    Undoes (readPairs w es.length) (entrySegments w es) rest es := by
  induction es with
  | nil => exact .pure [] rest
  | cons e es ih =>
    obtain ⟨key, value⟩ := e
    have order : entrySegments w ((key, value) :: es) = TextField.segments w key ++
        (TextField.segments w value ++ entrySegments w es) := by
      simp [entrySegments, List.append_assoc]
    rw [order]
    apply Undoes.bind (undoes_text w key)
    apply Undoes.bind (undoes_text w value)
    exact ih.bind_pure

/-- A pair with a new key is added at the end. -/
theorem insert_of_notMem {h : Headers} {key : String} (absent : key ∉ h.keys) (value : String) :
    h.insert key value = ⟨h.entries ++ [(key, value)]⟩ := by
  have unfound : h.entries.findIdx? (·.1 = key) = none := by
    rw [List.findIdx?_eq_none_iff]
    intro e he
    simp only [decide_eq_false_iff_not]
    exact fun same => absent (same ▸ List.mem_map_of_mem he)
  rw [insert, insertEntry_eq, unfound]

/-- Pairs with distinct keys are what inserting them one after another gives. -/
theorem insertAll_of_nodup {h : Headers} {pairs : List (String × String)}
    (nodup : (h.keys ++ pairs.map (·.1)).Nodup) : h.insertAll pairs = ⟨h.entries ++ pairs⟩ := by
  induction pairs generalizing h with
  | nil => simp [insertAll]
  | cons p pairs ih =>
    have absent : p.1 ∉ h.keys := by
      rw [List.map_cons, List.nodup_append] at nodup
      intro inside
      exact nodup.2.2 p.1 inside p.1 List.mem_cons_self rfl
    have added : h.insert p.1 p.2 = ⟨h.entries ++ [p]⟩ := insert_of_notMem absent p.2
    have onward : (h.insert p.1 p.2).insertAll pairs = _ := ih (by
      rw [added]
      simpa [keys, List.append_assoc] using nodup)
    show (h.insert p.1 p.2).insertAll pairs = _
    rw [onward, added, List.append_assoc]
    rfl

theorem collect_entries {h : Headers} (nodup : h.keys.Nodup) : collect h.entries = h := by
  rw [collect_eq_ofList, ofList, insertAll_of_nodup (by simpa [keys, empty] using nodup)]
  rfl

/-- A header map is read back if no key of it is repeated. -/
theorem undoes_headers (w : Width) {h : Headers} (nodup : h.keys.Nodup) (rest : Bytes) :
    Undoes (read w) (h.segments w) rest h := by
  unfold segments
  split
  · intro bs hbs
    cases hbs
  · rename_i fits
    apply Undoes.cons
    · exact undoes_count (Nat.not_lt.mp fits)
    · have pairs := (undoes_readPairs w h.entries rest).bind_pure (f := collect)
      rwa [collect_entries nodup] at pairs

end Headers

namespace Checksum

/-- The checksum with the value that is carried: none without a type. -/
def canonical (c : Checksum) : Checksum := if c.type = .none then absent else c

theorem undoes_checksum (c : Checksum) (rest : Bytes) :
    Undoes read c.segments rest c.canonical := by
  obtain ⟨type, value⟩ := c
  cases type with
  | none =>
    apply Undoes.cons (undoes_byte _)
    exact .pure absent rest
  | crc32 | farmhash32 | crc32c =>
    apply Undoes.cons (undoes_byte _)
    exact (undoes_word32 value rest).bind_pure

end Checksum

namespace Chunks

/-- The chunks as they are written, if they fit one frame. -/
def chunkSegments (chunks : List Bytes) : List Segment :=
  chunks.flatMap fun chunk => [.count .wide chunk.length, .put chunk]

theorem sizes_ok {chunks : List Bytes} {n : Nat} (fits : sizes chunks = .ok n) :
    ∀ chunk ∈ chunks, chunk.length ≤ Width.wide.limit := by
  induction chunks generalizing n with
  | nil => simp
  | cons chunk rest ih =>
    unfold sizes at fits
    split at fits
    · cases fits
    · rename_i small
      cases more : sizes rest with
      | error e => simp [more, bind, Except.bind] at fits
      | ok m =>
        intro c hc
        rcases List.mem_cons.mp hc with rfl | hc
        · exact Nat.not_lt.mp small
        · exact ih more c hc

/-- Only chunks that fit one frame are written. -/
theorem fits_of_bytes? {chunks : List Bytes} {bs : Bytes}
    (spelled : Segment.bytes? (segments chunks) = some bs) :
    segments chunks = chunkSegments chunks ∧ chunks.length ≤ limit ∧
      ∀ chunk ∈ chunks, chunk.length ≤ Width.wide.limit := by
  unfold segments at spelled ⊢
  split at spelled
  · cases spelled
  · rename_i n fits
    unfold length at fits
    split at fits
    · cases fits
    · rename_i few
      exact ⟨rfl, Nat.not_lt.mp few, sizes_ok fits⟩

theorem undoes_readUpTo {chunks : List Bytes} {room : Nat} (few : chunks.length ≤ room)
    (small : ∀ chunk ∈ chunks, chunk.length ≤ Width.wide.limit) :
    Undoes (readUpTo room) (chunkSegments chunks) [] chunks := by
  induction chunks generalizing room with
  | nil =>
    cases room with
    | zero => exact .atEnd (.pure [] [])
    | succ room => exact .atEnd (.pure [] [])
  | cons chunk rest ih =>
    cases room with
    | zero => simp at few
    | succ room =>
      have onward := ih (Nat.le_of_succ_le_succ few) fun c hc => small c (List.mem_cons_of_mem _ hc)
      have count := small chunk List.mem_cons_self
      show Undoes _ ([.count .wide chunk.length] ++ ([.put chunk] ++ chunkSegments rest)) [] _
      apply Undoes.notAtEnd
      · intro bs hbs
        obtain ⟨front, back, hfront, _, rfl⟩ := Segment.bytes?_append_eq_some_iff.mp hbs
        rw [Segment.count, Segment.bytes?_number, Option.some.injEq] at hfront
        have two : front.length = 2 := by rw [← hfront]; exact Bytes.length_bigEndian _ _
        intro empty
        simp [List.append_eq_nil_iff.mp empty] at two
      · apply Undoes.bind (undoes_count count)
        apply Undoes.bind (undoes_take rfl)
        exact onward.bind_pure

/-- Chunks go on to the end of the buffer, so they are read back where nothing follows. -/
theorem undoes_chunks (chunks : List Bytes) : Undoes read (segments chunks) [] chunks := by
  intro bs hbs
  obtain ⟨same, few, small⟩ := fits_of_bytes? hbs
  rw [same] at hbs
  exact undoes_readUpTo few small bs hbs

end Chunks

end CallWire
