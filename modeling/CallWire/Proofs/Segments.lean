import CallWire.Segment

/-!
# What segments put down

A list of segments stands for one byte string, unless one of the segments stops. Writing the list
succeeds exactly if it stands for a string and there is room for it, and then puts down that string
and nothing else.

* `bytes?_append_eq_some_iff`: the string of two lists in a row is made of theirs;
* `write_eq_ok_iff`, `writeAt_eq_ok_iff`: what writing does, at a pen and in a buffer.
-/

namespace CallWire

namespace Segment

/-- The bytes that segments put down, unless one of them stops. -/
def bytes? : List Segment → Option Bytes
  | [] => some []
  | .put bs :: rest => (bytes? rest).map (bs ++ ·)
  | .zeros n :: rest => (bytes? rest).map (Bytes.zeros n ++ ·)
  | .stop _ :: _ => none

theorem bytes?_append (front back : List Segment) :
    bytes? (front ++ back) = (bytes? front).bind fun bs => (bytes? back).map (bs ++ ·) := by
  induction front with
  | nil => simp [bytes?]
  | cons s front ih =>
    cases s with
    | put bs => simp [bytes?, ih, Option.map_bind, Option.bind_map, Function.comp_def]
    | zeros n => simp [bytes?, ih, Option.map_bind, Option.bind_map, Function.comp_def]
    | stop fault => rfl

theorem bytes?_append_eq_some_iff {front back : List Segment} {all : Bytes} :
    bytes? (front ++ back) = some all ↔
      ∃ bs cs, bytes? front = some bs ∧ bytes? back = some cs ∧ all = bs ++ cs := by
  rw [bytes?_append]
  constructor
  · intro h
    obtain ⟨bs, hbs, h⟩ := Option.bind_eq_some_iff.mp h
    obtain ⟨cs, hcs, rfl⟩ := Option.map_eq_some_iff.mp h
    exact ⟨bs, cs, hbs, hcs, rfl⟩
  · rintro ⟨bs, cs, hbs, hcs, rfl⟩
    simp [hbs, hcs]

theorem bytes?_put (bs : Bytes) : bytes? [put bs] = some bs := by
  simp [bytes?]

theorem bytes?_number (w n : Nat) : bytes? [number w n] = some (Bytes.bigEndian w n) :=
  bytes?_put _

end Segment

namespace Pen

/-- The pen behind `bs`, put down where it stood. -/
def past (p : Pen) (bs : Bytes) : Pen :=
  { p with
    pos := p.pos + bs.length
    behind := bs.reverse ++ p.behind
    ahead := p.ahead.drop bs.length }

theorem past_nil (p : Pen) : p.past [] = p := by
  cases p
  simp [past]

theorem past_append (p : Pen) (bs cs : Bytes) : p.past (bs ++ cs) = (p.past bs).past cs := by
  simp [past, Nat.add_assoc]

theorem put_eq_ok_iff {bs : Bytes} {p q : Pen} (inside : p.beyond = false) :
    p.put bs = .ok q ↔ bs.length ≤ p.ahead.length ∧ q = p.past bs := by
  unfold put
  rw [Bytes.covers_eq, inside]
  by_cases room : bs.length ≤ p.ahead.length
  · simp only [room, decide_true, if_true, Bool.false_eq_true, if_false, Except.ok.injEq,
      true_and, past, inside, List.reverseAux_eq]
    exact eq_comm
  · simp [room, refuse]

theorem past_of_put {p q : Pen} {bs : Bytes} (h : p.put bs = .ok q) :
    bs.length ≤ p.ahead.length ∧ q = p.past bs := by
  cases beyond : p.beyond with
  | false => exact (put_eq_ok_iff beyond).mp h
  | true =>
    unfold put at h
    rw [beyond] at h
    split at h <;> cases h

/-- What there is no room for is refused. -/
theorem put_short {p : Pen} {bs : Bytes} (short : p.ahead.length < bs.length) :
    p.put bs = CallWire.refuse (.shortWrite bs.length p.ahead.length p.pos) := by
  unfold put
  rw [Bytes.covers_eq, decide_eq_false (Nat.not_le.mpr short)]
  rfl

theorem write_put {p q : Pen} {bs : Bytes} (h : p.put bs = .ok q) (rest : List Segment) :
    write (.put bs :: rest) p = write rest q := by
  simp only [write, h]

theorem write_put_short {p : Pen} {bs : Bytes} (short : p.ahead.length < bs.length)
    (rest : List Segment) :
    write (.put bs :: rest) p =
      (p, CallWire.refuse (.shortWrite bs.length p.ahead.length p.pos)) := by
  simp only [write, put_short short, CallWire.refuse]

/-- What writing `rest` does at every pen tells what putting `bs` down and then writing it does. -/
theorem put_write_eq_ok_iff {rest : List Segment} {q : Pen}
    (writes : ∀ p : Pen, p.beyond = false → (write rest p = (q, .ok ()) ↔
      ∃ cs, Segment.bytes? rest = some cs ∧ cs.length ≤ p.ahead.length ∧ q = p.past cs))
    (bs : Bytes) {p : Pen} (inside : p.beyond = false) :
    write (.put bs :: rest) p = (q, .ok ()) ↔
      ∃ all, (Segment.bytes? rest).map (bs ++ ·) = some all ∧
        all.length ≤ p.ahead.length ∧ q = p.past all := by
  simp only [write]
  constructor
  · intro h
    split at h
    · rename_i m put
      obtain ⟨room, rfl⟩ := (put_eq_ok_iff inside).mp put
      obtain ⟨cs, hcs, more, rfl⟩ := (writes (p.past bs) inside).mp h
      refine ⟨bs ++ cs, by simp [hcs], ?_, (past_append p bs cs).symm⟩
      simp only [past, List.length_drop] at more
      simp only [List.length_append]
      omega
    · cases h
  · rintro ⟨all, hall, room, rfl⟩
    obtain ⟨cs, hcs, rfl⟩ := Option.map_eq_some_iff.mp hall
    rw [List.length_append] at room
    have put : p.put bs = .ok (p.past bs) := (put_eq_ok_iff inside).mpr ⟨by omega, rfl⟩
    rw [put]
    refine (writes (p.past bs) inside).mpr ⟨cs, hcs, ?_, past_append p bs cs⟩
    simp only [past, List.length_drop]
    omega

/-- Writing succeeds exactly if the segments stand for a string and there is room for it. -/
theorem write_eq_ok_iff {segments : List Segment} {p q : Pen} (inside : p.beyond = false) :
    write segments p = (q, .ok ()) ↔
      ∃ bs, Segment.bytes? segments = some bs ∧ bs.length ≤ p.ahead.length ∧ q = p.past bs := by
  induction segments generalizing p with
  | nil =>
    simp only [write, Segment.bytes?, Prod.mk.injEq, and_true, Option.some.injEq, exists_eq_left',
      List.length_nil, Nat.zero_le, true_and, past_nil]
    exact eq_comm
  | cons s rest ih =>
    cases s with
    | put bs => exact put_write_eq_ok_iff (fun _ => ih) bs inside
    | zeros n =>
      have same : write (.zeros n :: rest) p = write (.put (Bytes.zeros n) :: rest) p := by
        simp only [write, putZeros_eq]
      rw [same]
      exact put_write_eq_ok_iff (fun _ => ih) (Bytes.zeros n) inside
    | stop fault => simp [write, Segment.bytes?]

end Pen

/-- Writing into a buffer replaces as many bytes of it as the segments stand for. -/
theorem writeAt_eq_ok_iff {segments : List Segment} {buf out : Bytes} {offset stop : Nat}
    (inside : offset ≤ buf.length) :
    writeAt segments buf offset = (out, .ok stop) ↔
      ∃ bs, Segment.bytes? segments = some bs ∧ offset + bs.length ≤ buf.length ∧
        out = buf.take offset ++ bs ++ buf.drop (offset + bs.length) ∧
        stop = offset + bs.length := by
  have within : (Pen.openAt buf offset).beyond = false := by
    simp [Pen.openAt, Bytes.covers_eq, inside]
  have spelled (bs : Bytes) : ((Pen.openAt buf offset).past bs).buffer =
      buf.take offset ++ bs ++ buf.drop (offset + bs.length) := by
    simp [Pen.past, Pen.openAt, Pen.buffer_eq, List.drop_drop, List.reverse_append]
  unfold writeAt
  constructor
  · intro h
    split at h
    · rename_i q written
      obtain ⟨bs, hbs, room, rfl⟩ := (Pen.write_eq_ok_iff within).mp written
      simp only [Prod.mk.injEq, Except.ok.injEq] at h
      simp only [Pen.openAt, List.length_drop] at room
      exact ⟨bs, hbs, by omega, by rw [← h.1, spelled], h.2.symm⟩
    · cases h
  · rintro ⟨bs, hbs, room, rfl, rfl⟩
    have fits : bs.length ≤ (Pen.openAt buf offset).ahead.length := by
      simp only [Pen.openAt, List.length_drop]
      omega
    rw [(Pen.write_eq_ok_iff within).mpr ⟨bs, hbs, fits, rfl⟩]
    simp only [spelled, Prod.mk.injEq, true_and]
    rfl

end CallWire
