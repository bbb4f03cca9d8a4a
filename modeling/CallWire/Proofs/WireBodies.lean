import CallWire.Proofs.Exactness
import CallWire.Proofs.Merging

/-!
# Bodies as they stand on the wire

On the wire, a header map may repeat a key. What a body is read from is the string of a body of the
same type with such a map; reading merges the pairs of the map, and loses nothing else
(`Body.read_spans`).

* `Body.readPairs` reads only the header pairs of a body, repetitions included;
* `Body.merge_spells`: the string of the merged body is shorter if there are any.
-/

namespace CallWire

namespace Handshake

/-- The handshake with the header map that reading makes of its entries. -/
def merge (h : Handshake) : Handshake := { h with headers := h.headers.merge }

theorem missingKey?_merge (h : Handshake) : h.merge.missingKey? = h.missingKey? := by
  simp only [missingKey?, merge, Headers.contains_merge]

theorem merge_spells {h : Handshake} {n : Nat} (spells : Spells h.segments n) :
    ∃ m, Spells h.merge.segments m ∧ m ≤ n ∧ (m = n → h.headers.keys.Nodup) := by
  unfold segments at spells ⊢
  rw [missingKey?_merge]
  split at spells
  · exact absurd spells (Spells.not_refuse _)
  · obtain ⟨i, j, version, headers, rfl⟩ := Spells.cons_iff.mp spells
    obtain ⟨k, merged, less, distinct⟩ := Headers.merge_spells headers
    exact ⟨i + k, Spells.cons_iff.mpr ⟨i, k, version, merged, rfl⟩, by omega,
      fun equal => distinct (by omega)⟩

end Handshake

namespace CallRequest

/-- The request with the header map that reading makes of its entries. -/
def merge (r : CallRequest) : CallRequest := { r with headers := r.headers.merge }

theorem merge_spells {r : CallRequest} {n : Nat} (spells : Spells r.segments n) :
    ∃ m, Spells r.merge.segments m ∧ m ≤ n ∧ (m = n → r.headers.keys.Nodup) := by
  obtain ⟨_, args, most, hargs, rfl⟩ := Spells.append_iff.mp spells
  obtain ⟨_, checksum, more, hchecksum, rfl⟩ := Spells.append_iff.mp most
  obtain ⟨front, headers, hfront, hheaders, rfl⟩ := Spells.append_iff.mp more
  obtain ⟨k, merged, less, distinct⟩ := Headers.merge_spells hheaders
  exact ⟨front + k + checksum + args, ((hfront.append merged).append hchecksum).append hargs,
    by omega, fun equal => distinct (by omega)⟩

end CallRequest

namespace CallResponse

/-- The response with the header map that reading makes of its entries. -/
def merge (r : CallResponse) : CallResponse := { r with headers := r.headers.merge }

theorem merge_spells {r : CallResponse} {n : Nat} (spells : Spells r.segments n) :
    ∃ m, Spells r.merge.segments m ∧ m ≤ n ∧ (m = n → r.headers.keys.Nodup) := by
  obtain ⟨_, args, most, hargs, rfl⟩ := Spells.append_iff.mp spells
  obtain ⟨_, checksum, more, hchecksum, rfl⟩ := Spells.append_iff.mp most
  obtain ⟨front, headers, hfront, hheaders, rfl⟩ := Spells.append_iff.mp more
  obtain ⟨k, merged, less, distinct⟩ := Headers.merge_spells hheaders
  exact ⟨front + k + checksum + args, ((hfront.append merged).append hchecksum).append hargs,
    by omega, fun equal => distinct (by omega)⟩

end CallResponse

namespace Body

/-- The pairs of the header map, if the body has one. -/
def pairs {ε : Type} : Body ε → List (String × String)
  | initRequest b | initResponse b => b.headers.entries
  | callRequest b => b.headers.entries
  | callResponse b => b.headers.entries
  | _ => []

/-- The body with the header map that reading makes of its entries. -/
def merge {ε : Type} : Body ε → Body ε
  | initRequest b => initRequest b.merge
  | initResponse b => initResponse b.merge
  | callRequest b => callRequest b.merge
  | callResponse b => callResponse b.merge
  | b => b

/-- Reads a body of the given type up to the end of its header map; returns the pairs of the map as
they stand there. Types without a header map have none. -/
def readPairs : FrameType → Reader (List (String × String))
  | .initRequest | .initResponse => do
      let _ ← Reader.word16
      Headers.readAll .wide
  | .callRequest => do
      let _ ← Reader.byte
      let _ ← Reader.word32
      let _ ← Reader.tracing
      let _ ← TextField.read .narrow
      Headers.readAll .narrow
  | .callResponse => do
      let _ ← Reader.byte
      let _ ← Reader.byte
      let _ ← Reader.tracing
      Headers.readAll .narrow
  | _ => pure []

variable {ε : Type} {n : Nat}

theorem distinctHeaders_iff {b : Body ε} : b.DistinctHeaders ↔ (b.pairs.map (·.1)).Nodup := by
  cases b <;> simp [DistinctHeaders, pairs, Headers.keys]

theorem pairs_merge (b : Body ε) : b.merge.pairs = (Headers.collect b.pairs).entries := by
  cases b <;> rfl

theorem merge_of_distinct {b : Body ε} (distinct : b.DistinctHeaders) : b.merge = b := by
  cases b with
  | initRequest b | initResponse b =>
    simp [merge, Handshake.merge, Headers.merge_of_nodup distinct]
  | callRequest b => simp [merge, CallRequest.merge, Headers.merge_of_nodup distinct]
  | callResponse b => simp [merge, CallResponse.merge, Headers.merge_of_nodup distinct]
  | _ => rfl

/-- **The string of a merged body is shorter, unless nothing was merged.** -/
theorem merge_spells {b : Body ErrorResponse} (spells : Spells b.segments n) :
    ∃ m, Spells b.merge.segments m ∧ m ≤ n ∧ (m = n → b.DistinctHeaders) := by
  cases b with
  | initRequest b | initResponse b => exact Handshake.merge_spells spells
  | callRequest b => exact CallRequest.merge_spells spells
  | callResponse b => exact CallResponse.merge_spells spells
  | _ => exact ⟨n, spells, Nat.le_refl n, fun _ => trivial⟩

end Body

variable {c d : Cursor}

/-- A handshake is read from the string of one with the same pairs. -/
theorem Handshake.read_spans {h : Handshake} (inside : c.beyond = false)
    (read : Handshake.read c = .ok (h, d)) :
    ∃ (raw : Handshake) (e : Cursor), raw.merge = h ∧
      Body.readPairs .initRequest c = .ok (raw.headers.entries, e) ∧ c.Spans raw.segments d := by
  obtain ⟨version, c₁, hversion, read⟩ := Reader.bind_eq_ok_iff.mp read
  obtain ⟨headers, c₂, hheaders, read⟩ := Reader.bind_eq_ok_iff.mp read
  obtain ⟨pairs, hpairs, rfl⟩ := Headers.read_eq_ok_iff.mp hheaders
  have front := Reader.word16_spans inside hversion
  have back := Headers.readAll_spans front.inside hpairs
  let raw : Handshake := ⟨version, ⟨pairs⟩⟩
  cases complete : raw.merge.missingKey? with
  | some key =>
    rw [show (⟨version, Headers.collect pairs⟩ : Handshake) = raw.merge from rfl, complete] at read
    cases read
  | none =>
    rw [show (⟨version, Headers.collect pairs⟩ : Handshake) = raw.merge from rfl, complete] at read
    obtain ⟨rfl, rfl⟩ := Reader.pure_eq_ok_iff.mp read
    refine ⟨raw, _, rfl, Reader.bind_eq_ok_iff.mpr ⟨_, _, hversion, hpairs⟩, ?_⟩
    rw [Handshake.missingKey?_merge] at complete
    rw [Handshake.segments, complete]
    exact front.append back

theorem CallRequest.read_spans {r : CallRequest} (inside : c.beyond = false)
    (read : CallRequest.read c = .ok (r, d)) :
    ∃ (raw : CallRequest) (e : Cursor), raw.merge = r ∧
      Body.readPairs .callRequest c = .ok (raw.headers.entries, e) ∧ c.Spans raw.segments d := by
  obtain ⟨flags, c₁, hflags, read⟩ := Reader.bind_eq_ok_iff.mp read
  obtain ⟨ttl, c₂, httl, read⟩ := Reader.bind_eq_ok_iff.mp read
  obtain ⟨tracing, c₃, htracing, read⟩ := Reader.bind_eq_ok_iff.mp read
  obtain ⟨service, c₄, hservice, read⟩ := Reader.bind_eq_ok_iff.mp read
  obtain ⟨headers, c₅, hheaders, read⟩ := Reader.bind_eq_ok_iff.mp read
  obtain ⟨checksum, c₆, hchecksum, read⟩ := Reader.bind_eq_ok_iff.mp read
  obtain ⟨args, c₇, hargs, read⟩ := Reader.bind_eq_ok_iff.mp read
  obtain ⟨rfl, rfl⟩ := Reader.pure_eq_ok_iff.mp read
  obtain ⟨pairs, hpairs, rfl⟩ := Headers.read_eq_ok_iff.mp hheaders
  have s₁ := Reader.byte_spans inside hflags
  have s₂ := s₁.append (Reader.word32_spans s₁.inside httl)
  have s₃ := s₂.append (Reader.tracing_spans s₂.inside htracing)
  have s₄ := s₃.append (TextField.read_spans s₃.inside hservice)
  have s₅ := s₄.append (Headers.readAll_spans s₄.inside hpairs)
  have s₆ := s₅.append (Checksum.read_spans s₅.inside hchecksum)
  have s₇ := s₆.append (Chunks.read_spans s₆.inside hargs).1
  refine ⟨⟨flags, ttl, tracing, service, ⟨pairs⟩, checksum, args⟩, c₅, rfl, ?_, s₇⟩
  refine Reader.bind_eq_ok_iff.mpr ⟨_, _, hflags, ?_⟩
  refine Reader.bind_eq_ok_iff.mpr ⟨_, _, httl, ?_⟩
  refine Reader.bind_eq_ok_iff.mpr ⟨_, _, htracing, ?_⟩
  exact Reader.bind_eq_ok_iff.mpr ⟨_, _, hservice, hpairs⟩

theorem CallResponse.read_spans {r : CallResponse} (inside : c.beyond = false)
    (read : CallResponse.read c = .ok (r, d)) :
    ∃ (raw : CallResponse) (e : Cursor), raw.merge = r ∧
      Body.readPairs .callResponse c = .ok (raw.headers.entries, e) ∧ c.Spans raw.segments d := by
  obtain ⟨flags, c₁, hflags, read⟩ := Reader.bind_eq_ok_iff.mp read
  obtain ⟨code, c₂, hcode, read⟩ := Reader.bind_eq_ok_iff.mp read
  obtain ⟨tracing, c₃, htracing, read⟩ := Reader.bind_eq_ok_iff.mp read
  obtain ⟨headers, c₄, hheaders, read⟩ := Reader.bind_eq_ok_iff.mp read
  obtain ⟨checksum, c₅, hchecksum, read⟩ := Reader.bind_eq_ok_iff.mp read
  obtain ⟨args, c₆, hargs, read⟩ := Reader.bind_eq_ok_iff.mp read
  obtain ⟨rfl, rfl⟩ := Reader.pure_eq_ok_iff.mp read
  obtain ⟨pairs, hpairs, rfl⟩ := Headers.read_eq_ok_iff.mp hheaders
  have s₁ := Reader.byte_spans inside hflags
  have s₂ := s₁.append (Reader.byte_spans s₁.inside hcode)
  have s₃ := s₂.append (Reader.tracing_spans s₂.inside htracing)
  have s₄ := s₃.append (Headers.readAll_spans s₃.inside hpairs)
  have s₅ := s₄.append (Checksum.read_spans s₄.inside hchecksum)
  have s₆ := s₅.append (Chunks.read_spans s₅.inside hargs).1
  refine ⟨⟨flags, code, tracing, ⟨pairs⟩, checksum, args⟩, c₄, rfl, ?_, s₆⟩
  refine Reader.bind_eq_ok_iff.mpr ⟨_, _, hflags, ?_⟩
  refine Reader.bind_eq_ok_iff.mpr ⟨_, _, hcode, ?_⟩
  exact Reader.bind_eq_ok_iff.mpr ⟨_, _, htracing, hpairs⟩

theorem Continuation.read_spans {r : Continuation} (inside : c.beyond = false)
    (read : Continuation.read c = .ok (r, d)) : c.Spans r.segments d := by
  obtain ⟨flags, c₁, hflags, read⟩ := Reader.bind_eq_ok_iff.mp read
  obtain ⟨checksum, c₂, hchecksum, read⟩ := Reader.bind_eq_ok_iff.mp read
  obtain ⟨args, c₃, hargs, read⟩ := Reader.bind_eq_ok_iff.mp read
  obtain ⟨rfl, rfl⟩ := Reader.pure_eq_ok_iff.mp read
  have s₁ := Reader.byte_spans inside hflags
  have s₂ := s₁.append (Checksum.read_spans s₁.inside hchecksum)
  exact s₂.append (Chunks.read_spans s₂.inside hargs).1

theorem Cancel.read_spans {n : Cancel} (inside : c.beyond = false)
    (read : Cancel.read c = .ok (n, d)) : c.Spans n.segments d := by
  obtain ⟨ttl, c₁, httl, read⟩ := Reader.bind_eq_ok_iff.mp read
  obtain ⟨tracing, c₂, htracing, read⟩ := Reader.bind_eq_ok_iff.mp read
  obtain ⟨why, c₃, hwhy, read⟩ := Reader.bind_eq_ok_iff.mp read
  obtain ⟨rfl, rfl⟩ := Reader.pure_eq_ok_iff.mp read
  have s₁ := Reader.word32_spans inside httl
  have s₂ := s₁.append (Reader.tracing_spans s₁.inside htracing)
  exact s₂.append (TextField.read_spans s₂.inside hwhy)

theorem Claim.read_spans {n : Claim} (inside : c.beyond = false)
    (read : Claim.read c = .ok (n, d)) : c.Spans n.segments d := by
  obtain ⟨ttl, c₁, httl, read⟩ := Reader.bind_eq_ok_iff.mp read
  obtain ⟨tracing, c₂, htracing, read⟩ := Reader.bind_eq_ok_iff.mp read
  obtain ⟨rfl, rfl⟩ := Reader.pure_eq_ok_iff.mp read
  have s₁ := Reader.word32_spans inside httl
  exact s₁.append (Reader.tracing_spans s₁.inside htracing)

theorem ErrorResponse.read_spans {e : ErrorResponse} (inside : c.beyond = false)
    (read : ErrorResponse.read c = .ok (e, d)) : c.Spans e.segments d := by
  obtain ⟨n, c₁, hn, read⟩ := Reader.bind_eq_ok_iff.mp read
  obtain ⟨tracing, c₂, htracing, read⟩ := Reader.bind_eq_ok_iff.mp read
  cases known : ErrorCode.ofNumber? n with
  | none =>
    rw [known] at read
    cases read
  | some code =>
    rw [known] at read
    obtain ⟨message, c₃, hmessage, read⟩ := Reader.bind_eq_ok_iff.mp read
    obtain ⟨rfl, rfl⟩ := Reader.pure_eq_ok_iff.mp read
    rw [← ErrorCode.number_of_ofNumber? known] at hn
    have s₁ := Reader.byte_spans inside hn
    have s₂ := s₁.append (Reader.tracing_spans s₁.inside htracing)
    exact s₂.append (TextField.read_spans s₂.inside hmessage)

/-- **What a body is read from is the string of a body of the same type,** whose header map may
repeat keys. Reading merges its pairs. -/
theorem Body.read_spans {type : FrameType} {b : Body ErrorResponse} (inside : c.beyond = false)
    (read : Body.read type c = .ok (b, d)) :
    ∃ (raw : Body ErrorResponse) (e : Cursor), raw.frameType = type ∧ raw.merge = b ∧
      readPairs type c = .ok (raw.pairs, e) ∧ c.Spans raw.segments d := by
  cases type with
  | initRequest =>
    obtain ⟨h, done, rfl⟩ := Reader.map_eq_ok_iff.mp read
    obtain ⟨raw, e, rfl, pairs, spans⟩ := Handshake.read_spans inside done
    exact ⟨initRequest raw, e, rfl, rfl, pairs, spans⟩
  | initResponse =>
    obtain ⟨h, done, rfl⟩ := Reader.map_eq_ok_iff.mp read
    obtain ⟨raw, e, rfl, pairs, spans⟩ := Handshake.read_spans inside done
    exact ⟨initResponse raw, e, rfl, rfl, pairs, spans⟩
  | callRequest =>
    obtain ⟨r, done, rfl⟩ := Reader.map_eq_ok_iff.mp read
    obtain ⟨raw, e, rfl, pairs, spans⟩ := CallRequest.read_spans inside done
    exact ⟨callRequest raw, e, rfl, rfl, pairs, spans⟩
  | callResponse =>
    obtain ⟨r, done, rfl⟩ := Reader.map_eq_ok_iff.mp read
    obtain ⟨raw, e, rfl, pairs, spans⟩ := CallResponse.read_spans inside done
    exact ⟨callResponse raw, e, rfl, rfl, pairs, spans⟩
  | callRequestCont =>
    obtain ⟨r, done, rfl⟩ := Reader.map_eq_ok_iff.mp read
    exact ⟨callRequestCont r, c, rfl, rfl, rfl, Continuation.read_spans inside done⟩
  | callResponseCont =>
    obtain ⟨r, done, rfl⟩ := Reader.map_eq_ok_iff.mp read
    exact ⟨callResponseCont r, c, rfl, rfl, rfl, Continuation.read_spans inside done⟩
  | cancel =>
    obtain ⟨n, done, rfl⟩ := Reader.map_eq_ok_iff.mp read
    exact ⟨cancel n, c, rfl, rfl, rfl, Cancel.read_spans inside done⟩
  | claim =>
    obtain ⟨n, done, rfl⟩ := Reader.map_eq_ok_iff.mp read
    exact ⟨claim n, c, rfl, rfl, rfl, Claim.read_spans inside done⟩
  | pingRequest =>
    obtain ⟨rfl, rfl⟩ := Reader.pure_eq_ok_iff.mp read
    exact ⟨pingRequest, c, rfl, rfl, rfl, .nil inside⟩
  | pingResponse =>
    obtain ⟨rfl, rfl⟩ := Reader.pure_eq_ok_iff.mp read
    exact ⟨pingResponse, c, rfl, rfl, rfl, .nil inside⟩
  | errorResponse =>
    obtain ⟨r, done, rfl⟩ := Reader.map_eq_ok_iff.mp read
    exact ⟨error r, c, rfl, rfl, rfl, ErrorResponse.read_spans inside done⟩

end CallWire
