import CallWire.Proofs.Lengths

/-!
# Strings that can be measured

If a value has a string, its size can be worked out beforehand, and is the size of that string. This
holds of the fields that bodies are made of, and so of every kind of body (`Body.length_of_spells`).
-/

namespace CallWire

namespace Spells

variable {front back segments : List Segment} {m n : Nat}

theorem append_iff :
    Spells (front ++ back) n ↔ ∃ k m, Spells front k ∧ Spells back m ∧ n = k + m := by
  constructor
  · rintro ⟨all, hall, rfl⟩
    obtain ⟨bs, cs, hbs, hcs, rfl⟩ := Segment.bytes?_append_eq_some_iff.mp hall
    exact ⟨_, _, ⟨bs, hbs, rfl⟩, ⟨cs, hcs, rfl⟩, List.length_append⟩
  · rintro ⟨k, m, first, second, rfl⟩
    exact first.append second

theorem cons_iff {s : Segment} :
    Spells (s :: back) n ↔ ∃ k m, Spells [s] k ∧ Spells back m ∧ n = k + m := by
  rw [← List.singleton_append, append_iff]

theorem unique (first : Spells segments m) (second : Spells segments n) : m = n := by
  obtain ⟨bs, hbs, rfl⟩ := first
  obtain ⟨cs, hcs, rfl⟩ := second
  rw [hbs, Option.some.injEq] at hcs
  rw [hcs]

/-- A value that is refused at once has no string. -/
theorem not_refuse (e : FrameError) : ¬ Spells [.refuse e] n := by
  rintro ⟨bs, hbs, -⟩
  cases hbs

end Spells

variable {n : Nat}

theorem TextField.length_of_spells {w : Width} {s : String} (spells : Spells (segments w s) n) :
    length w s = .ok n := by
  unfold segments at spells
  split at spells
  · exact absurd spells (Spells.not_refuse _)
  · rename_i fits
    have sized : length w s = .ok (w.bytes + Text.size s) := by rw [length, if_neg fits]
    have expected := TextField.spells sized
    rw [segments, if_neg fits] at expected
    rw [sized, spells.unique expected]

namespace Headers

theorem foldlM_length_of_spells {w : Width} {entries : List (String × String)}
    (spells : Spells (entrySegments w entries) n) (start : Nat) :
    (entries.foldlM (fun n (k, v) => do
      let key ← TextField.length w k
      let value ← TextField.length w v
      return n + key + value) start : Except FrameError Nat) = .ok (start + n) := by
  induction entries generalizing start n with
  | nil =>
    rw [spells.unique .nil]
    rfl
  | cons entry rest ih =>
    obtain ⟨k, v⟩ := entry
    obtain ⟨i, j, here, onward, rfl⟩ := Spells.append_iff.mp spells
    obtain ⟨key, value, hkey, hvalue, rfl⟩ := Spells.append_iff.mp here
    rw [List.foldlM_cons]
    refine bind_eq_ok_iff.mpr ⟨start + key + value, ?_, ?_⟩
    · refine bind_eq_ok_iff.mpr ⟨_, TextField.length_of_spells hkey, ?_⟩
      exact bind_eq_ok_iff.mpr ⟨_, TextField.length_of_spells hvalue, rfl⟩
    · rw [ih onward, Nat.add_assoc start key value, Nat.add_assoc start]

theorem length_of_spells {w : Width} {h : Headers} (spells : Spells (h.segments w) n) :
    h.length w = .ok n := by
  unfold segments at spells
  split at spells
  · exact absurd spells (Spells.not_refuse _)
  · rename_i fits
    obtain ⟨i, j, count, entries, rfl⟩ := Spells.cons_iff.mp spells
    rw [length, if_neg fits, count.unique (.number w.bytes h.size), foldlM_length_of_spells entries]

end Headers

theorem Chunks.length_of_spells {chunks : List Bytes} (spells : Spells (segments chunks) n) :
    length chunks = .ok n := by
  cases sized : length chunks with
  | error e =>
    rw [segments, sized] at spells
    exact absurd spells (Spells.not_refuse e)
  | ok m => rw [spells.unique (Chunks.spells sized)]

theorem Handshake.length_of_spells {h : Handshake} (spells : Spells h.segments n) :
    h.length = .ok n := by
  unfold segments at spells
  split at spells
  · exact absurd spells (Spells.not_refuse _)
  · obtain ⟨i, j, version, headers, rfl⟩ := Spells.cons_iff.mp spells
    rw [length, Headers.length_of_spells headers, version.unique (.number 2 _)]
    rfl

theorem CallRequest.length_of_spells {r : CallRequest} (spells : Spells r.segments n) :
    r.length = .ok n := by
  obtain ⟨_, args, most, hargs, rfl⟩ := Spells.append_iff.mp spells
  obtain ⟨_, checksum, more, hchecksum, rfl⟩ := Spells.append_iff.mp most
  obtain ⟨_, headers, fields, hheaders, rfl⟩ := Spells.append_iff.mp more
  obtain ⟨front, service, hfront, hservice, rfl⟩ := Spells.append_iff.mp fields
  have fixed := ((Spells.byte r.flags).append (.number 4 r.ttl.toNat)).append (.tracing r.tracing)
  rw [length, TextField.length_of_spells hservice, Headers.length_of_spells hheaders,
    Chunks.length_of_spells hargs, hchecksum.unique r.checksum.spells, hfront.unique fixed]
  rfl

theorem CallResponse.length_of_spells {r : CallResponse} (spells : Spells r.segments n) :
    r.length = .ok n := by
  obtain ⟨_, args, most, hargs, rfl⟩ := Spells.append_iff.mp spells
  obtain ⟨_, checksum, more, hchecksum, rfl⟩ := Spells.append_iff.mp most
  obtain ⟨front, headers, hfront, hheaders, rfl⟩ := Spells.append_iff.mp more
  have fixed := ((Spells.byte r.flags).append (.byte r.code)).append (.tracing r.tracing)
  rw [length, Headers.length_of_spells hheaders, Chunks.length_of_spells hargs,
    hchecksum.unique r.checksum.spells, hfront.unique fixed]
  rfl

theorem Continuation.length_of_spells {r : Continuation} (spells : Spells r.segments n) :
    r.length = .ok n := by
  obtain ⟨front, args, hfront, hargs, rfl⟩ := Spells.append_iff.mp spells
  have fixed := (Spells.byte r.flags).append r.checksum.spells
  rw [length, Chunks.length_of_spells hargs, hfront.unique fixed]
  rfl

theorem Cancel.length_of_spells {c : Cancel} (spells : Spells c.segments n) : c.length = .ok n := by
  obtain ⟨front, why, hfront, hwhy, rfl⟩ := Spells.append_iff.mp spells
  have fixed := (Spells.number 4 c.ttl.toNat).append (.tracing c.tracing)
  rw [length, TextField.length_of_spells hwhy, hfront.unique fixed]
  rfl

theorem ErrorResponse.length_of_spells {e : ErrorResponse} (spells : Spells e.segments n) :
    e.length = .ok n := by
  obtain ⟨front, message, hfront, hmessage, rfl⟩ := Spells.append_iff.mp spells
  have fixed := (Spells.byte e.code.number).append (.tracing e.tracing)
  rw [length, TextField.length_of_spells hmessage, hfront.unique fixed]
  rfl

/-- **A body that has a string has the size that is worked out for it.** -/
theorem Body.length_of_spells {b : Body ErrorResponse} (spells : Spells b.segments n) :
    b.length = .ok n := by
  cases b with
  | initRequest b | initResponse b => exact Handshake.length_of_spells spells
  | callRequest b => exact CallRequest.length_of_spells spells
  | callResponse b => exact CallResponse.length_of_spells spells
  | callRequestCont b | callResponseCont b => exact Continuation.length_of_spells spells
  | cancel b => exact Cancel.length_of_spells spells
  | claim b => exact congrArg Except.ok (b.spells.unique spells)
  | pingRequest | pingResponse => exact congrArg Except.ok (Spells.nil.unique spells)
  | error b => exact ErrorResponse.length_of_spells spells

end CallWire
