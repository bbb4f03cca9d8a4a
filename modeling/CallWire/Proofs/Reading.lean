import CallWire.Proofs.Segments
import CallWire.Cursor

/-!
# Reading back what was written

A reader undoes a list of segments if, wherever the string of the segments stands, it reads the
value that was written and stops right behind the string. Some values only end where the buffer
does, so what follows the string is part of the notion.

* `Undoes.bind`, `Undoes.cons`: a reader made of two undoes the segments of the first followed by
  those of the second;
* `runAt_of_undoes`: what such a reader gives at an offset in a buffer.
-/

namespace CallWire

/-- Where the string of `segments` stands and `rest` follows up to the end of the buffer, `r` reads
`a` and stops in front of `rest`. -/
def Undoes {α : Type} (r : Reader α) (segments : List Segment) (rest : Bytes) (a : α) : Prop :=
  ∀ bs, Segment.bytes? segments = some bs → ∀ pos,
    r ⟨pos, bs ++ rest, false⟩ = .ok (a, ⟨pos + bs.length, rest, false⟩)

namespace Undoes

variable {α β : Type}

theorem pure (a : α) (rest : Bytes) : Undoes (pure a) [] rest a := by
  intro bs hbs pos
  cases hbs
  rfl

theorem bind {r : Reader α} {f : α → Reader β} {front back : List Segment} {rest : Bytes}
    {a : α} {b : β} (first : ∀ rest, Undoes r front rest a) (second : Undoes (f a) back rest b) :
    Undoes (r >>= f) (front ++ back) rest b := by
  intro all hall pos
  obtain ⟨bs, cs, hbs, hcs, rfl⟩ := Segment.bytes?_append_eq_some_iff.mp hall
  have read : r ⟨pos, bs ++ cs ++ rest, false⟩ = .ok (a, ⟨pos + bs.length, cs ++ rest, false⟩) := by
    rw [List.append_assoc]
    exact first (cs ++ rest) bs hbs pos
  show (r ⟨pos, bs ++ cs ++ rest, false⟩).bind (fun p => f p.1 p.2) = _
  rw [read]
  show f a ⟨pos + bs.length, cs ++ rest, false⟩ = _
  rw [second cs hcs, List.length_append, Nat.add_assoc]

theorem cons {r : Reader α} {f : α → Reader β} {head : Segment} {back : List Segment} {rest : Bytes}
    {a : α} {b : β} (first : ∀ rest, Undoes r [head] rest a) (second : Undoes (f a) back rest b) :
    Undoes (r >>= f) (head :: back) rest b :=
  bind first second

theorem map {r : Reader α} {segments : List Segment} {rest : Bytes} {a : α} (f : α → β)
    (h : Undoes r segments rest a) : Undoes (f <$> r) segments rest (f a) := by
  intro bs hbs pos
  show (r ⟨pos, bs ++ rest, false⟩).bind (fun p => .ok (f p.1, p.2)) = _
  rw [h bs hbs pos]
  rfl

/-- The last part of a reader whose value is made of what it has read. -/
theorem bind_pure {r : Reader α} {segments : List Segment} {rest : Bytes} {a : α} {f : α → β}
    (h : Undoes r segments rest a) : Undoes (r >>= fun x => Pure.pure (f x)) segments rest (f a) :=
  h.map f

/-- Looking at the position reads nothing. -/
theorem position {f : Nat → Reader β} {segments : List Segment} {rest : Bytes} {b : β}
    (h : ∀ pos, Undoes (f pos) segments rest b) :
    Undoes (Reader.position >>= f) segments rest b := by
  intro bs hbs pos
  exact h pos bs hbs pos

theorem atEnd {f : Bool → Reader β} {b : β} (h : Undoes (f true) [] [] b) :
    Undoes (Reader.atEnd >>= f) [] [] b := by
  intro bs hbs pos
  cases hbs
  exact h [] rfl pos

theorem notAtEnd {f : Bool → Reader β} {segments : List Segment} {rest : Bytes} {b : β}
    (more : ∀ bs, Segment.bytes? segments = some bs → bs ≠ [])
    (h : Undoes (f false) segments rest b) : Undoes (Reader.atEnd >>= f) segments rest b := by
  intro bs hbs pos
  have left : (bs ++ rest).isEmpty = false := by simp [more bs hbs]
  show f (bs ++ rest).isEmpty ⟨pos, bs ++ rest, false⟩ = _
  rw [left]
  exact h bs hbs pos

end Undoes

theorem undoes_take {n : Nat} {bs : Bytes} (len : bs.length = n) (rest : Bytes) :
    Undoes (Reader.take n) [.put bs] rest bs := by
  intro all hall pos
  rw [Segment.bytes?_put, Option.some.injEq] at hall
  subst hall len
  have room : Bytes.covers bs.length (bs ++ rest) = true := by
    rw [Bytes.covers_iff, List.length_append]
    omega
  simp [Reader.take, room]

theorem undoes_number {w n : Nat} (small : n < Bytes.capacity w) (rest : Bytes) :
    Undoes (Reader.number w) [.number w n] rest n := by
  have h := (undoes_take (Bytes.length_bigEndian w n) rest).map Bytes.ofBigEndian
  rwa [Bytes.ofBigEndian_bigEndian, Nat.mod_eq_of_lt small] at h

theorem undoes_byte (b : UInt8) (rest : Bytes) : Undoes Reader.byte [.byte b] rest b := by
  have same : Bytes.bigEndian 1 b.toNat = [b] := by simp [Bytes.bigEndian, Bytes.capacity]
  have h := (undoes_number (w := 1) b.toNat_lt rest).map UInt8.ofNat
  rwa [UInt8.ofNat_toNat, Segment.number, same] at h

theorem undoes_word16 (n : UInt16) (rest : Bytes) : Undoes Reader.word16 [.word16 n] rest n := by
  have h := (undoes_number (w := 2) n.toNat_lt rest).map UInt16.ofNat
  rwa [UInt16.ofNat_toNat] at h

theorem undoes_word32 (n : UInt32) (rest : Bytes) : Undoes Reader.word32 [.word32 n] rest n := by
  have h := (undoes_number (w := 4) n.toNat_lt rest).map UInt32.ofNat
  rwa [UInt32.ofNat_toNat] at h

theorem undoes_tracing (t : Tracing) (rest : Bytes) :
    Undoes Reader.tracing [.tracing t] rest t := by
  have h := (undoes_take t.length_eq rest).map Tracing.ofBytes
  rwa [Tracing.ofBytes_bytes] at h

/-- What a reader that undoes some segments gives where their string stands in a buffer. -/
theorem runAt_of_undoes {α : Type} {r : Reader α} {segments : List Segment} {rest bs buf : Bytes}
    {a : α} {offset : Nat} (h : Undoes r segments rest a)
    (spelled : Segment.bytes? segments = some bs) (inside : offset ≤ buf.length)
    (stands : buf.drop offset = bs ++ rest) :
    r.runAt buf offset = .ok (offset + bs.length, a) := by
  have start : Cursor.openAt buf offset = ⟨offset, bs ++ rest, false⟩ := by
    simp [Cursor.openAt, Bytes.covers_eq, inside, stands]
  simp only [Reader.runAt, start, h bs spelled]

end CallWire
