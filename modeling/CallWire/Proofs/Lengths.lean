import CallWire.Body
import CallWire.Proofs.Segments

/-!
# Lengths worked out beforehand

If the size of a value can be worked out, the value has a string, and the string has that size:
this holds of the fields that bodies are made of, and so of the bodies. Only a handshake must have
certain headers besides.
-/

namespace CallWire

/-- The segments stand for a string of `n` bytes. -/
def Spells (segments : List Segment) (n : Nat) : Prop :=
  ∃ bs, Segment.bytes? segments = some bs ∧ bs.length = n

namespace Spells

theorem nil : Spells [] 0 := ⟨[], rfl, rfl⟩

theorem append {front back : List Segment} {m n : Nat} (first : Spells front m)
    (second : Spells back n) : Spells (front ++ back) (m + n) := by
  obtain ⟨bs, hbs, rfl⟩ := first
  obtain ⟨cs, hcs, rfl⟩ := second
  exact ⟨bs ++ cs, Segment.bytes?_append_eq_some_iff.mpr ⟨bs, cs, hbs, hcs, rfl⟩,
    List.length_append⟩

theorem put (bs : Bytes) : Spells [.put bs] bs.length := ⟨bs, Segment.bytes?_put bs, rfl⟩

theorem number (w n : Nat) : Spells [.number w n] w :=
  ⟨_, Segment.bytes?_number w n, Bytes.length_bigEndian w n⟩

theorem byte (b : UInt8) : Spells [.byte b] 1 := put [b]

theorem tracing (t : Tracing) : Spells [.tracing t] Tracing.width :=
  ⟨t.bytes, Segment.bytes?_put _, t.length_eq⟩

end Spells

theorem TextField.spells {w : Width} {s : String} {n : Nat}
    (length : TextField.length w s = .ok n) : Spells (TextField.segments w s) n := by
  unfold TextField.length at length
  unfold TextField.segments
  split at length
  · cases length
  · rename_i fits
    cases length
    rw [if_neg fits, ← Text.length_encode]
    exact (Spells.number w.bytes (Text.size s)).append (.put (Text.encode s))

namespace Headers

/-- The sizes of the entries, added up from a number on. -/
theorem spells_entries {w : Width} {entries : List (String × String)} {start total : Nat}
    (length : entries.foldlM (fun n (k, v) => do
      let key ← TextField.length w k
      let value ← TextField.length w v
      return n + key + value) start = .ok total) :
    ∃ n, total = start + n ∧ Spells (entrySegments w entries) n := by
  induction entries generalizing start with
  | nil =>
    cases length
    exact ⟨0, rfl, .nil⟩
  | cons entry rest ih =>
    obtain ⟨k, v⟩ := entry
    rw [List.foldlM_cons] at length
    obtain ⟨next, here, onward⟩ := bind_eq_ok_iff.mp length
    obtain ⟨key, hkey, here⟩ := bind_eq_ok_iff.mp here
    obtain ⟨value, hvalue, here⟩ := bind_eq_ok_iff.mp here
    cases here
    obtain ⟨n, rfl, spelled⟩ := ih onward
    refine ⟨key + value + n, by omega, ?_⟩
    exact ((TextField.spells hkey).append (TextField.spells hvalue)).append spelled

theorem spells {w : Width} {h : Headers} {n : Nat} (length : h.length w = .ok n) :
    Spells (h.segments w) n := by
  unfold Headers.length at length
  unfold segments
  split at length
  · cases length
  · rename_i fits
    obtain ⟨m, rfl, spelled⟩ := spells_entries length
    rw [if_neg fits]
    exact (Spells.number w.bytes h.size).append spelled

end Headers

theorem Checksum.spells (c : Checksum) : Spells c.segments c.length := by
  unfold Checksum.segments Checksum.length
  split
  · exact .byte _
  · exact (Spells.byte _).append (.number 4 _)

namespace Chunks

theorem spells_sizes {chunks : List Bytes} {n : Nat} (sizes : Chunks.sizes chunks = .ok n) :
    Spells (chunks.flatMap fun chunk => [.count .wide chunk.length, .put chunk]) n := by
  induction chunks generalizing n with
  | nil =>
    cases sizes
    exact .nil
  | cons chunk rest ih =>
    unfold Chunks.sizes at sizes
    split at sizes
    · cases sizes
    · obtain ⟨more, hmore, sizes⟩ := bind_eq_ok_iff.mp sizes
      cases sizes
      exact ((Spells.number _ chunk.length).append (.put chunk)).append (ih hmore)

theorem spells {chunks : List Bytes} {n : Nat} (length : Chunks.length chunks = .ok n) :
    Spells (Chunks.segments chunks) n := by
  unfold Chunks.segments
  rw [length]
  unfold Chunks.length at length
  split at length
  · cases length
  · exact spells_sizes length

end Chunks

theorem Handshake.spells {h : Handshake} {n : Nat} (complete : h.missingKey? = none)
    (length : h.length = .ok n) : Spells h.segments n := by
  obtain ⟨headers, hheaders, length⟩ := bind_eq_ok_iff.mp length
  cases length
  unfold Handshake.segments
  rw [complete]
  exact (Spells.number 2 h.version.toNat).append (Headers.spells hheaders)

theorem CallRequest.spells {r : CallRequest} {n : Nat} (length : r.length = .ok n) :
    Spells r.segments n := by
  obtain ⟨service, hservice, length⟩ := bind_eq_ok_iff.mp length
  obtain ⟨headers, hheaders, length⟩ := bind_eq_ok_iff.mp length
  obtain ⟨args, hargs, length⟩ := bind_eq_ok_iff.mp length
  cases length
  have front := ((Spells.byte r.flags).append (.number 4 r.ttl.toNat)).append (.tracing r.tracing)
  have described := (front.append (TextField.spells hservice)).append (Headers.spells hheaders)
  exact (described.append r.checksum.spells).append (Chunks.spells hargs)

theorem CallResponse.spells {r : CallResponse} {n : Nat} (length : r.length = .ok n) :
    Spells r.segments n := by
  obtain ⟨headers, hheaders, length⟩ := bind_eq_ok_iff.mp length
  obtain ⟨args, hargs, length⟩ := bind_eq_ok_iff.mp length
  cases length
  have front := ((Spells.byte r.flags).append (.byte r.code)).append (.tracing r.tracing)
  exact ((front.append (Headers.spells hheaders)).append r.checksum.spells).append
    (Chunks.spells hargs)

theorem Continuation.spells {r : Continuation} {n : Nat} (length : r.length = .ok n) :
    Spells r.segments n := by
  obtain ⟨args, hargs, length⟩ := bind_eq_ok_iff.mp length
  cases length
  exact ((Spells.byte r.flags).append r.checksum.spells).append (Chunks.spells hargs)

theorem Cancel.spells {c : Cancel} {n : Nat} (length : c.length = .ok n) : Spells c.segments n := by
  obtain ⟨why, hwhy, length⟩ := bind_eq_ok_iff.mp length
  cases length
  exact ((Spells.number 4 c.ttl.toNat).append (.tracing c.tracing)).append (TextField.spells hwhy)

theorem Claim.spells (c : Claim) : Spells c.segments size :=
  (Spells.number 4 c.ttl.toNat).append (.tracing c.tracing)

theorem ErrorResponse.spells {e : ErrorResponse} {n : Nat} (length : e.length = .ok n) :
    Spells e.segments n := by
  obtain ⟨message, fits, length⟩ := bind_eq_ok_iff.mp length
  cases length
  exact ((Spells.byte e.code.number).append (.tracing e.tracing)).append (TextField.spells fits)

end CallWire
