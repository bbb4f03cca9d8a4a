import CallWire.Proofs.FrameHeaders
import CallWire.Proofs.Layouts

/-!
# Readers that accept a layout

A reader accepts a layout if it succeeds exactly where a string of that layout stands ahead, and
then returns the value that is laid out there and stops behind it. Readers in a row accept layouts
in a row, so that what a reader accepts is known from its parts.

* `Accepts.bind`, `Accepts.bind_pure`: a reader made of two;
* `TextField.accepts_read`, `Headers.accepts_read`, `Checksum.accepts_read`, `Chunks.accepts_read`:
  the fields that bodies are made of;
* `Chunks.overflows_read`: three chunks with anything behind them are one chunk too many.
-/

namespace CallWire

/-- Inside a buffer, the reader succeeds exactly where a string that is laid out as a value stands
ahead, and reads that value. With `toEnd`, the buffer must end with the string. -/
def Accepts {α : Type} (toEnd : Bool) (r : Reader α) (layout : α → Bytes → Prop) : Prop :=
  ∀ pos ahead a d, r ⟨pos, ahead, false⟩ = .ok (a, d) ↔
    ∃ bs rest, layout a bs ∧ ahead = bs ++ rest ∧ (toEnd = true → rest = []) ∧
      d = ⟨pos + bs.length, rest, false⟩

namespace Accepts

variable {α β : Type} {e : Bool} {r : Reader α} {layout : α → Bytes → Prop}

theorem congr {other : α → Bytes → Prop} (h : Accepts e r layout)
    (same : ∀ a bs, layout a bs ↔ other a bs) : Accepts e r other := by
  intro pos ahead a d
  simp only [h pos ahead a d, same]

theorem pure (a : α) : Accepts false (pure a) fun b bs => a = b ∧ bs = [] := by
  intro pos ahead b d
  rw [Reader.pure_eq_ok_iff]
  constructor
  · rintro ⟨rfl, rfl⟩
    exact ⟨[], ahead, ⟨rfl, rfl⟩, rfl, nofun, rfl⟩
  · rintro ⟨_, rest, ⟨rfl, rfl⟩, rfl, -, rfl⟩
    exact ⟨rfl, rfl⟩

theorem fail (e : Bool) (err : FrameError) :
    Accepts e (Reader.fail err : Reader α) fun _ _ => False := by
  intro pos ahead a d
  constructor
  · intro read
    cases read
  · rintro ⟨_, _, impossible, -⟩
    exact impossible.elim

theorem bind {f : α → Reader β} {next : α → β → Bytes → Prop} (first : Accepts false r layout)
    (second : ∀ a, Accepts e (f a) (next a)) :
    Accepts e (r >>= f) fun b bs =>
      ∃ a front back, layout a front ∧ next a b back ∧ bs = front ++ back := by
  intro pos ahead b d
  rw [Reader.bind_eq_ok_iff]
  constructor
  · rintro ⟨a, c, read, onward⟩
    obtain ⟨front, _, here, rfl, -, rfl⟩ := (first _ _ _ _).mp read
    obtain ⟨back, rest, there, rfl, ended, rfl⟩ := (second _ _ _ _ _).mp onward
    refine ⟨front ++ back, rest, ⟨a, front, back, here, there, rfl⟩, ?_, ended, ?_⟩
    · rw [List.append_assoc]
    · rw [List.length_append, Nat.add_assoc]
  · rintro ⟨_, rest, ⟨a, front, back, here, there, rfl⟩, rfl, ended, rfl⟩
    refine ⟨a, ⟨pos + front.length, back ++ rest, false⟩, (first _ _ _ _).mpr ?_,
      (second _ _ _ _ _).mpr ?_⟩
    · exact ⟨front, back ++ rest, here, List.append_assoc _ _ _, nofun, rfl⟩
    · refine ⟨back, rest, there, rfl, ended, ?_⟩
      rw [List.length_append, Nat.add_assoc]

theorem map (f : α → β) (h : Accepts e r layout) :
    Accepts e (f <$> r) fun b bs => ∃ a, f a = b ∧ layout a bs := by
  intro pos ahead b d
  rw [Reader.map_eq_ok_iff]
  constructor
  · rintro ⟨a, read, rfl⟩
    obtain ⟨bs, rest, here, stands⟩ := (h _ _ _ _).mp read
    exact ⟨bs, rest, ⟨a, rfl, here⟩, stands⟩
  · rintro ⟨bs, rest, ⟨a, rfl, here⟩, stands⟩
    exact ⟨a, (h _ _ _ _).mpr ⟨bs, rest, here, stands⟩, rfl⟩

/-- The last part of a reader whose value is made of what it has read. -/
theorem bind_pure {f : α → β} (h : Accepts e r layout) :
    Accepts e (r >>= fun a => Pure.pure (f a)) fun b bs => ∃ a, f a = b ∧ layout a bs :=
  h.map f

/-- A reader that undoes the segments of a value, and reads nothing else, accepts their string. -/
theorem of_undoes (segments : α → List Segment) (fits : α → Prop)
    (undoes : ∀ a, fits a → ∀ rest, (e = true → rest = []) → Undoes r (segments a) rest a)
    (spans : ∀ c a d, c.beyond = false → r c = .ok (a, d) →
      fits a ∧ c.Spans (segments a) d ∧ (e = true → d.ahead = [])) :
    Accepts e r fun a bs => fits a ∧ Segment.bytes? (segments a) = some bs := by
  intro pos ahead a d
  constructor
  · intro read
    obtain ⟨fit, ⟨bs, spelled, -, stands, stop⟩, ended⟩ := spans _ _ _ rfl read
    exact ⟨bs, d.ahead, ⟨fit, spelled⟩, stands, ended, stop⟩
  · rintro ⟨bs, rest, ⟨fit, spelled⟩, rfl, ended, rfl⟩
    exact undoes a fit rest ended bs spelled pos

/-- What a reader that accepts a layout gives at an offset in a buffer. -/
theorem runAt_eq_ok_iff {buf : Bytes} {offset stop : Nat} {a : α} (h : Accepts e r layout)
    (inside : offset ≤ buf.length) :
    r.runAt buf offset = .ok (stop, a) ↔ offset ≤ stop ∧ stop ≤ buf.length ∧
      (e = true → stop = buf.length) ∧ layout a ((buf.take stop).drop offset) := by
  have start : Cursor.openAt buf offset = ⟨offset, buf.drop offset, false⟩ := by
    simp [Cursor.openAt, Bytes.covers_eq, inside]
  rw [Reader.runAt_eq_ok_iff, start]
  constructor
  · rintro ⟨c, read, rfl⟩
    obtain ⟨bs, rest, laid, stands, ended, rfl⟩ := (h _ _ _ _).mp read
    have total := congrArg List.length stands
    rw [List.length_drop, List.length_append] at total
    have here : (buf.take (offset + bs.length)).drop offset = bs := by
      rw [List.drop_take, stands, Nat.add_sub_cancel_left, List.take_left]
    dsimp only
    rw [here]
    refine ⟨Nat.le_add_right _ _, by omega, fun toEnd => ?_, laid⟩
    rw [ended toEnd, List.length_nil] at total
    omega
  · rintro ⟨front, back, ended, laid⟩
    have length : ((buf.take stop).drop offset).length = stop - offset := by
      rw [List.length_drop, List.length_take, Nat.min_eq_left back]
    have read := (h offset (buf.drop offset) a ⟨stop, buf.drop stop, false⟩).mpr
      ⟨_, buf.drop stop, laid, ?_, ?_, ?_⟩
    · exact ⟨_, read, rfl⟩
    · have cut := List.take_append_drop (stop - offset) (buf.drop offset)
      rw [List.drop_drop, Nat.add_sub_cancel' front, ← List.drop_take] at cut
      exact cut.symm
    · intro toEnd
      rw [ended toEnd, List.drop_length]
    · rw [length, Nat.add_sub_cancel' front]

end Accepts

namespace Reader

theorem accepts_take (n : Nat) :
    Accepts false (take n) fun a bs => a.length = n ∧ bs = a := by
  refine (Accepts.of_undoes (fun a => [.put a]) (fun a => a.length = n)
    (fun a len rest _ => undoes_take len rest) fun c a d inside read => ?_).congr fun a bs => ?_
  · obtain ⟨length, spans⟩ := take_spans inside read
    exact ⟨length, spans, nofun⟩
  · rw [Segment.bytes?_put, Option.some.injEq, eq_comm (a := a)]

theorem accepts_number (w : Nat) :
    Accepts false (number w) fun n bs => n < Bytes.capacity w ∧ bs = Bytes.bigEndian w n := by
  refine (Accepts.of_undoes (fun n => [.number w n]) (fun n => n < Bytes.capacity w)
    (fun n small rest _ => undoes_number small rest) fun c n d inside read => ?_).congr
    fun n bs => ?_
  · obtain ⟨small, spans⟩ := number_spans inside read
    exact ⟨small, spans, nofun⟩
  · rw [Segment.bytes?_number, Option.some.injEq, eq_comm (b := bs)]

theorem accepts_count (w : Width) :
    Accepts false (count w) fun n bs => n ≤ w.limit ∧ bs = Bytes.bigEndian w.bytes n := by
  refine (accepts_number w.bytes).congr fun n bs => and_congr_left fun _ => ?_
  cases w <;> exact Nat.lt_succ_iff

theorem accepts_byte : Accepts false byte fun b bs => bs = [b] := by
  refine ((accepts_number 1).map UInt8.ofNat).congr fun b bs => ⟨?_, ?_⟩
  · rintro ⟨n, rfl, -, rfl⟩
    simp [Bytes.bigEndian, Bytes.capacity]
  · rintro rfl
    refine ⟨b.toNat, UInt8.ofNat_toNat, b.toNat_lt, ?_⟩
    simp [Bytes.bigEndian, Bytes.capacity]

theorem accepts_word16 : Accepts false word16 fun n bs => bs = Bytes.bigEndian 2 n.toNat := by
  refine ((accepts_number 2).map UInt16.ofNat).congr fun n bs => ⟨?_, ?_⟩
  · rintro ⟨m, rfl, small, rfl⟩
    rw [UInt16.toNat_ofNat_of_lt' small]
  · rintro rfl
    exact ⟨n.toNat, UInt16.ofNat_toNat, n.toNat_lt, rfl⟩

theorem accepts_word32 : Accepts false word32 fun n bs => bs = Bytes.bigEndian 4 n.toNat := by
  refine ((accepts_number 4).map UInt32.ofNat).congr fun n bs => ⟨?_, ?_⟩
  · rintro ⟨m, rfl, small, rfl⟩
    rw [UInt32.toNat_ofNat_of_lt' small]
  · rintro rfl
    exact ⟨n.toNat, UInt32.ofNat_toNat, n.toNat_lt, rfl⟩

theorem accepts_tracing : Accepts false tracing fun t bs => bs = t.bytes := by
  refine ((accepts_take Tracing.width).map Tracing.ofBytes).congr fun t bs => ⟨?_, ?_⟩
  · rintro ⟨cs, rfl, length, rfl⟩
    rw [Tracing.bytes_ofBytes length]
  · rintro rfl
    exact ⟨t.bytes, Tracing.ofBytes_bytes t, t.length_eq, rfl⟩

end Reader

theorem TextField.accepts_read (w : Width) : Accepts false (TextField.read w) (Layout w) := by
  refine (Accepts.of_undoes (e := false) (segments w) (fun _ => True)
    (fun s _ rest _ => undoes_text w s rest) fun c s d inside read => ?_).congr fun s bs => ?_
  · exact ⟨trivial, read_spans inside read, nofun⟩
  rw [segments, Layout]
  split
  · rename_i long
    simp only [Segment.refuse, Segment.bytes?, true_and, reduceCtorEq, false_iff]
    exact fun laid => absurd laid.1 (Nat.not_le.mpr long)
  · rename_i fits
    simp [Segment.count, Segment.number, Segment.bytes?, Nat.not_lt.mp fits, eq_comm]

namespace Headers

theorem accepts_readPairs (w : Width) (n : Nat) :
    Accepts false (readPairs w n) fun pairs bs => pairs.length = n ∧ PairsLayout w pairs bs := by
  induction n with
  | zero =>
    refine (Accepts.pure []).congr fun pairs bs => ⟨?_, ?_⟩
    · rintro ⟨rfl, rfl⟩
      exact ⟨rfl, .nil⟩
    · rintro ⟨length, laid⟩
      cases laid with
      | nil => exact ⟨rfl, rfl⟩
      | cons => cases length
  | succ n ih =>
    refine (Accepts.bind (TextField.accepts_read w) fun key =>
      Accepts.bind (TextField.accepts_read w) fun value => ih.bind_pure).congr
      fun pairs bs => ⟨?_, ?_⟩
    · rintro ⟨key, first, _, hkey, ⟨value, second, others, hvalue, ⟨rest, rfl, rfl, laid⟩, rfl⟩,
        rfl⟩
      exact ⟨rfl, .cons hkey hvalue laid⟩
    · rintro ⟨count, laid⟩
      cases laid with
      | nil => cases count
      | cons hkey hvalue laid =>
        exact ⟨_, _, _, hkey, ⟨_, _, _, hvalue, ⟨_, rfl, Nat.succ.inj count, laid⟩, rfl⟩, rfl⟩

theorem accepts_read (w : Width) : Accepts false (read w) (Layout w) := by
  refine (Accepts.bind (Reader.accepts_count w) fun n => (accepts_readPairs w n).bind_pure).congr
    fun h bs => ⟨?_, ?_⟩
  · rintro ⟨_, _, fields, ⟨small, rfl⟩, ⟨pairs, rfl, rfl, laid⟩, rfl⟩
    exact ⟨pairs, fields, gathers_iff.mpr (collect_eq_ofList pairs), small, laid, rfl⟩
  · rintro ⟨pairs, fields, gathers, small, laid, rfl⟩
    rw [gathers_iff, ← collect_eq_ofList] at gathers
    exact ⟨_, _, fields, ⟨small, rfl⟩, ⟨pairs, gathers.symm, rfl, laid⟩, rfl⟩

end Headers

namespace Checksum

/-- What is read behind the byte `n`. -/
theorem accepts_value (n : UInt8) :
    Accepts false
      (match ChecksumType.ofNumber? n with
        | .none => Reader.fail (.invalidChecksumType n)
        | .some .none => return absent
        | .some type => return ⟨type, ← Reader.word32⟩)
      fun c bs => c.type.number = n ∧ ValueLayout c bs := by
  cases known : ChecksumType.ofNumber? n with
  | none =>
    refine (Accepts.fail _ _).congr fun c bs => ⟨nofun, ?_⟩
    rintro ⟨rfl, -⟩
    rw [ChecksumType.ofNumber?_number] at known
    cases known
  | some type =>
    have named {c : Checksum} : c.type.number = n ↔ c.type = type := by
      constructor
      · intro same
        rw [← same, ChecksumType.ofNumber?_number] at known
        exact Option.some.inj known
      · intro same
        rw [same, ChecksumType.number_of_ofNumber? known]
    simp only [named]
    by_cases absence : type = .none
    · subst absence
      refine (Accepts.pure absent).congr fun c bs => ⟨?_, ?_⟩
      · rintro ⟨rfl, rfl⟩
        exact ⟨rfl, rfl, rfl⟩
      · rintro ⟨typed, laid⟩
        rw [ValueLayout, if_pos typed] at laid
        obtain ⟨zero, rfl⟩ := laid
        cases c
        cases typed
        cases zero
        exact ⟨rfl, rfl⟩
    · have reads : Accepts false (Reader.word32 >>= fun value => pure (⟨type, value⟩ : Checksum))
          fun c bs => c.type = type ∧ ValueLayout c bs := by
        refine (Reader.accepts_word32.bind_pure).congr fun c bs => ⟨?_, ?_⟩
        · rintro ⟨value, rfl, rfl⟩
          exact ⟨rfl, by rw [ValueLayout, if_neg absence]⟩
        · rintro ⟨rfl, laid⟩
          rw [ValueLayout, if_neg absence] at laid
          exact ⟨c.value, rfl, laid⟩
      cases type with
      | none => exact absurd rfl absence
      | crc32 | farmhash32 | crc32c => exact reads

theorem accepts_read : Accepts false Checksum.read Layout := by
  refine (Accepts.bind Reader.accepts_byte accepts_value).congr fun c bs => ⟨?_, ?_⟩
  · rintro ⟨_, _, value, rfl, ⟨rfl, laid⟩, rfl⟩
    exact ⟨value, laid, rfl⟩
  · rintro ⟨value, laid, rfl⟩
    exact ⟨_, _, value, rfl, ⟨rfl, laid⟩, rfl⟩

end Checksum

namespace Chunks

theorem bytes?_chunkSegments (chunks : List Bytes) :
    Segment.bytes? (chunkSegments chunks) =
      some (chunks.flatMap fun chunk => Bytes.bigEndian 2 chunk.length ++ chunk) := by
  induction chunks with
  | nil => rfl
  | cons chunk rest ih =>
    rw [chunkSegments, List.flatMap_cons, ← chunkSegments]
    simp only [List.cons_append, List.nil_append, Segment.count, Segment.number, Segment.bytes?,
      ih, Option.map_some, List.flatMap_cons, List.append_assoc]
    rfl

theorem accepts_read : Accepts true Chunks.read Layout := by
  refine (Accepts.of_undoes chunkSegments (fun chunks => chunks.length ≤ limit ∧
    ∀ chunk ∈ chunks, chunk.length ≤ Width.wide.limit) ?_ ?_).congr fun chunks bs => ?_
  · rintro chunks ⟨few, small⟩ rest ended
    rw [ended rfl]
    exact undoes_readUpTo few small
  · intro c chunks d inside read
    obtain ⟨few, small, spans, done⟩ := readUpTo_spans inside read
    exact ⟨⟨few, small⟩, spans, fun _ => done⟩
  · rw [bytes?_chunkSegments, Option.some.injEq, and_assoc, eq_comm (b := bs)]
    rfl

end Chunks

/-- Where one of the strings stands ahead and the buffer goes on behind it, the reader refuses. -/
def Overflows {α : Type} (r : Reader α) (layout : Bytes → Prop) (err : FrameError) : Prop :=
  ∀ pos bs more, layout bs → more ≠ [] → r ⟨pos, bs ++ more, false⟩ = refuse err

namespace Overflows

variable {α β : Type} {r : Reader α} {err : FrameError}

theorem mono {layout other : Bytes → Prop} (h : Overflows r other err)
    (imp : ∀ bs, layout bs → other bs) : Overflows r layout err :=
  fun pos bs more here => h pos bs more (imp bs here)

/-- What fails at once, fails whatever would have come after it. -/
theorem andThen {layout : Bytes → Prop} (f : α → Reader β) (h : Overflows r layout err) :
    Overflows (r >>= f) layout err := by
  intro pos bs more here beyond
  show (r ⟨pos, bs ++ more, false⟩).bind (fun x => f x.1 x.2) = _
  rw [h pos bs more here beyond]
  rfl

theorem map {layout : Bytes → Prop} (f : α → β) (h : Overflows r layout err) :
    Overflows (f <$> r) layout err := by
  intro pos bs more here beyond
  rw [Reader.map_apply, h pos bs more here beyond]
  rfl

theorem bind {f : α → Reader β} {front back : α → Bytes → Prop} (first : Accepts false r front)
    (second : ∀ a, Overflows (f a) (back a) err) :
    Overflows (r >>= f) (fun bs => ∃ a xs ys, front a xs ∧ back a ys ∧ bs = xs ++ ys) err := by
  rintro pos _ more ⟨a, xs, ys, here, there, rfl⟩ beyond
  have read : r ⟨pos, xs ++ ys ++ more, false⟩ = .ok (a, ⟨pos + xs.length, ys ++ more, false⟩) :=
    (first _ _ _ _).mpr ⟨xs, ys ++ more, here, List.append_assoc _ _ _, nofun, rfl⟩
  show (r ⟨pos, xs ++ ys ++ more, false⟩).bind (fun x => f x.1 x.2) = _
  rw [read]
  exact second a _ ys more there beyond

/-- The buffer does not end where it goes on. -/
theorem notAtEnd {layout : Bytes → Prop} {f : Bool → Reader α}
    (h : Overflows (f false) layout err) : Overflows (Reader.atEnd >>= f) layout err := by
  intro pos bs more here beyond
  have ahead : (bs ++ more).isEmpty = false := by simp [beyond]
  show f (bs ++ more).isEmpty _ = _
  rw [ahead]
  exact h pos bs more here beyond

end Overflows

namespace Chunks

/-- The string of as many chunks as a frame can have. -/
def Full (bs : Bytes) : Prop := ∃ chunks, chunks.length = limit ∧ Layout chunks bs

theorem overflows_readUpTo (room : Nat) :
    Overflows (readUpTo room) (fun bs => ∃ chunks : List Bytes, chunks.length = room ∧
      (∀ chunk ∈ chunks, chunk.length ≤ 65535) ∧
      bs = chunks.flatMap fun chunk => Bytes.bigEndian 2 chunk.length ++ chunk)
      (.tooManyArgs (limit + 1)) := by
  induction room with
  | zero =>
    apply Overflows.notAtEnd
    intro pos bs more _ _
    rfl
  | succ room ih =>
    have more := Overflows.notAtEnd (f := fun done => if done then pure [] else
      Reader.count .wide >>= fun n => Reader.take n >>= fun chunk =>
        readUpTo room >>= fun rest => pure (chunk :: rest))
      (.bind (Reader.accepts_count .wide) fun n => .bind (Reader.accepts_take n) fun chunk =>
        ih.andThen _)
    apply more.mono
    rintro _ ⟨chunks, count, small, rfl⟩
    cases chunks with
    | nil => cases count
    | cons chunk rest =>
      obtain ⟨here, others⟩ := List.forall_mem_cons.mp small
      refine ⟨chunk.length, _, _, ⟨here, rfl⟩, ⟨chunk, chunk, _, ⟨rfl, rfl⟩,
        ⟨rest, Nat.succ.inj count, others, rfl⟩, rfl⟩, ?_⟩
      rw [List.flatMap_cons, List.append_assoc]
      rfl

theorem overflows_read : Overflows Chunks.read Full (.tooManyArgs (limit + 1)) := by
  apply (overflows_readUpTo limit).mono
  rintro bs ⟨chunks, full, -, small, spelled⟩
  exact ⟨chunks, full, small, spelled⟩

end Chunks

end CallWire
