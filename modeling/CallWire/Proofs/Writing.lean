import CallWire.Proofs.Acceptance
import CallWire.Proofs.FrameRoundTrip
import CallWire.Proofs.Measuring

/-!
# Where writing stops

Writing a body into a buffer may stop at any of its segments, for want of room or because a field
does not fit the format. It goes wrong in no way that the size of the body, its headers and the
room in the buffer do not tell beforehand (`HeldBody.writeAt_measured`).

* `exists_eq_of_writeAt`: wherever writing stops, only bytes from the offset on have changed;
* `fault_of_writeAt`: writing stops at a segment that says so, or for want of room;
* `Body.spells_iff`: a body has a string exactly if its size can be worked out and no header is
  missing.
-/

namespace CallWire

/-- The errors that tell of a value too large for the format, of a header that is missing, or of
bytes too many for a buffer. -/
inductive FrameError.Unfit : FrameError → Prop
  | text (size limit : Nat) : Unfit (.stringTooLong size limit)
  | headers (count : Nat) : Unfit (.tooManyHeaders count)
  | args (count : Nat) : Unfit (.tooManyArgs count)
  | missing (key : String) : Unfit (.missingInitHeader key)
  | frame (size : Nat) : Unfit (.frameTooLarge size)
  | room (needed remaining offset : Nat) : Unfit (.shortWrite needed remaining offset)

namespace Segment

/-- Every segment stops, or is written like bytes to put down. -/
theorem stops_or_puts (s : Segment) : (∃ fault, s = .stop fault) ∨
    ∃ bs, bytes? [s] = some bs ∧
      ∀ rest p, Pen.write (s :: rest) p = Pen.write (.put bs :: rest) p := by
  cases s with
  | stop fault => exact .inl ⟨fault, rfl⟩
  | put bs => exact .inr ⟨bs, bytes?_put bs, fun _ _ => rfl⟩
  | zeros n =>
    refine .inr ⟨Bytes.zeros n, by simp [bytes?], fun rest p => ?_⟩
    simp only [Pen.write, Pen.putZeros_eq]

/-- Segments that stand for a string do not stop. -/
theorem stop_notMem_of_spelled {segments : List Segment} {bs : Bytes} {fault : Fault FrameError}
    (spelled : bytes? segments = some bs) : .stop fault ∉ segments := by
  intro mem
  obtain ⟨front, back, rfl⟩ := List.append_of_mem mem
  obtain ⟨_, _, -, stopped, -⟩ := bytes?_append_eq_some_iff.mp spelled
  cases stopped

/-- The first segment stops or puts something down, so that whether there is room is looked at
before anything else. -/
def Leads : List Segment → Prop
  | .put bs :: _ => bs ≠ []
  | .stop _ :: _ => True
  | _ => False

theorem leads_put {bs : Bytes} (nonempty : bs ≠ []) (rest : List Segment) : Leads (.put bs :: rest) :=
  nonempty

theorem Leads.string_ne_nil {segments : List Segment} {bs : Bytes} (leads : Leads segments)
    (spelled : bytes? segments = some bs) : bs ≠ [] := by
  match segments, leads with
  | .put cs :: rest, leads =>
    obtain ⟨ds, -, rfl⟩ := Option.map_eq_some_iff.mp spelled
    exact List.append_ne_nil_of_left_ne_nil leads ds
  | .stop _ :: _, _ => cases spelled

/-- No segment stops but because something does not fit. -/
def OnlyRefuse (segments : List Segment) : Prop :=
  ∀ fault, .stop fault ∈ segments → ∃ e, fault = .refused e ∧ e.Unfit

namespace OnlyRefuse

theorem nil : OnlyRefuse [] := by
  intro fault mem
  cases mem

theorem refuse {e : FrameError} (unfit : e.Unfit) : OnlyRefuse [.refuse e] := by
  intro fault mem
  cases List.mem_singleton.mp mem
  exact ⟨e, rfl, unfit⟩

theorem put (bs : Bytes) : OnlyRefuse [.put bs] := by
  intro fault mem
  cases List.mem_singleton.mp mem

theorem append {front back : List Segment} (first : OnlyRefuse front) (second : OnlyRefuse back) :
    OnlyRefuse (front ++ back) := by
  intro fault mem
  exact (List.mem_append.mp mem).elim (first fault) (second fault)

theorem flatMap {α : Type} {list : List α} {f : α → List Segment} (each : ∀ a, OnlyRefuse (f a)) :
    OnlyRefuse (list.flatMap f) := by
  intro fault mem
  obtain ⟨a, -, mem⟩ := List.mem_flatMap.mp mem
  exact each a fault mem

end OnlyRefuse

end Segment

open Segment (Leads OnlyRefuse leads_put)

/-- The fault of bytes that there is no room for. -/
def Fault.IsShortWrite (fault : Fault FrameError) : Prop :=
  ∃ needed remaining offset, fault = .refused (.shortWrite needed remaining offset)

namespace Pen

/-- Wherever the pen stops, what it has left behind are bytes put down in a row. -/
theorem past_of_write (segments : List Segment) (p : Pen) :
    ∃ bs, bs.length ≤ p.ahead.length ∧ (write segments p).1 = p.past bs := by
  have stays (p : Pen) : ∃ bs, bs.length ≤ p.ahead.length ∧ p = p.past bs :=
    ⟨[], Nat.zero_le _, (past_nil p).symm⟩
  induction segments generalizing p with
  | nil => exact stays p
  | cons s rest ih =>
    obtain ⟨fault, rfl⟩ | ⟨bs, -, like⟩ := s.stops_or_puts
    · exact stays p
    · rw [like]
      cases put : p.put bs with
      | error fault =>
        simp only [write, put]
        exact stays p
      | ok q =>
        obtain ⟨room, rfl⟩ := past_of_put put
        obtain ⟨cs, more, last⟩ := ih (p.past bs)
        refine ⟨bs ++ cs, ?_, ?_⟩
        · simp only [past, List.length_drop] at more
          rw [List.length_append]
          omega
        · rw [write_put put, last, past_append]

/-- Inside of the buffer, writing stops at a segment that says so, or for want of room. -/
theorem fault_of_write {segments : List Segment} {p q : Pen} {fault : Fault FrameError}
    (inside : p.beyond = false) (h : write segments p = (q, .error fault)) :
    .stop fault ∈ segments ∨ fault.IsShortWrite := by
  induction segments generalizing p with
  | nil => cases h
  | cons s rest ih =>
    obtain ⟨fault, rfl⟩ | ⟨bs, -, like⟩ := s.stops_or_puts
    · cases h
      exact .inl List.mem_cons_self
    · rw [like] at h
      by_cases room : bs.length ≤ p.ahead.length
      · rw [write_put ((put_eq_ok_iff inside).mpr ⟨room, rfl⟩)] at h
        exact (ih (p := p.past bs) inside h).imp_left (List.mem_cons_of_mem s)
      · rw [write_put_short (Nat.not_le.mp room)] at h
        cases h
        exact .inr ⟨_, _, _, rfl⟩

/-- At the end of the buffer, and beyond it, nothing is written. -/
theorem write_of_full {segments : List Segment} {p : Pen} (leads : Leads segments)
    (full : p.ahead = []) : ∃ fault, write segments p = (p, .error fault) ∧
      (.stop fault ∈ segments ∨ fault.IsShortWrite) := by
  match segments, leads with
  | .stop fault :: rest, _ => exact ⟨fault, rfl, .inl List.mem_cons_self⟩
  | .put bs :: rest, leads =>
    have short : p.ahead.length < bs.length := by
      rw [full]
      exact List.length_pos_iff.mpr leads
    exact ⟨_, write_put_short short rest, .inr ⟨_, _, _, rfl⟩⟩

end Pen

section WriteAt

variable {segments : List Segment} {buf out : Bytes} {offset stop : Nat} {fault : Fault FrameError}

/-- Wherever writing stops, it has replaced some bytes from the offset on, and no others. -/
theorem exists_eq_of_writeAt (segments : List Segment) (buf : Bytes) (offset : Nat) :
    ∃ bs, (writeAt segments buf offset).1 =
      buf.take offset ++ bs ++ buf.drop (offset + bs.length) := by
  obtain ⟨bs, -, last⟩ := Pen.past_of_write segments (Pen.openAt buf offset)
  have here : (writeAt segments buf offset).1 = ((Pen.openAt buf offset).past bs).buffer := by
    rw [← last]
    unfold writeAt
    split <;> simp_all
  refine ⟨bs, here.trans ?_⟩
  simp [Pen.past, Pen.openAt, Pen.buffer_eq, List.drop_drop, List.reverse_append]

/-- No byte in front of the offset changes. -/
theorem getElem?_writeAt_of_lt (segments : List Segment) (buf : Bytes) {i : Nat}
    (before : i < offset) :
    (writeAt segments buf offset).1[i]? = buf[i]? := by
  have length := length_writeAt segments buf offset
  obtain ⟨bs, written⟩ := exists_eq_of_writeAt segments buf offset
  by_cases inside : i < buf.length
  · have front : i < (buf.take offset).length := by
      rw [List.length_take]
      omega
    rw [written, List.append_assoc, List.getElem?_append_left front, List.getElem?_take_of_lt before]
  · rw [List.getElem?_eq_none (Nat.not_lt.mp inside), List.getElem?_eq_none]
    rw [length]
    exact Nat.not_lt.mp inside

/-- Behind the bytes that are replaced, a buffer is what it was. -/
theorem getElem?_replaced_of_le {bs : Bytes} {i : Nat}
    (room : bs.length = 0 ∨ offset + bs.length ≤ buf.length) (behind : offset + bs.length ≤ i) :
    (buf.take offset ++ bs ++ buf.drop (offset + bs.length))[i]? = buf[i]? := by
  obtain empty | inside := room
  · rw [List.length_eq_zero_iff.mp empty]
    simp
  · have front : (buf.take offset ++ bs).length = offset + bs.length := by
      rw [List.length_append, List.length_take_of_le (by omega)]
    rw [List.getElem?_append_right (front ▸ behind), front, List.getElem?_drop,
      Nat.add_sub_cancel' behind]

theorem write_of_writeAt (h : writeAt segments buf offset = (out, .error fault)) :
    ∃ p, Pen.write segments (Pen.openAt buf offset) = (p, .error fault) := by
  unfold writeAt at h
  split at h
  · cases h
  · rename_i p stopped written
    cases h
    exact ⟨p, written⟩

/-- Wherever the offset lies, writing stops at a segment that says so, or for want of room. -/
theorem fault_of_writeAt (leads : Leads segments)
    (h : writeAt segments buf offset = (out, .error fault)) :
    .stop fault ∈ segments ∨ fault.IsShortWrite := by
  obtain ⟨p, written⟩ := write_of_writeAt h
  by_cases inside : offset ≤ buf.length
  · have within : (Pen.openAt buf offset).beyond = false := by
      simp [Pen.openAt, Bytes.covers_eq, inside]
    exact Pen.fault_of_write within written
  · have full : (Pen.openAt buf offset).ahead = [] := by
      simp only [Pen.openAt, List.drop_eq_nil_iff]
      omega
    obtain ⟨first, stopped, known⟩ := Pen.write_of_full leads full
    rw [written] at stopped
    cases stopped
    exact known

/-- Wherever the offset lies, segments that only refuse are written, or something does not fit. -/
theorem unfit_of_writeAt (leads : Leads segments) (refuses : OnlyRefuse segments)
    (h : writeAt segments buf offset = (out, .error fault)) :
    ∃ e, fault = .refused e ∧ e.Unfit := by
  obtain stops | ⟨_, _, _, rfl⟩ := fault_of_writeAt leads h
  · exact refuses fault stops
  · exact ⟨_, rfl, .room _ _ _⟩

/-- Wherever the offset lies, writing succeeds exactly if there is a string, and room for it. -/
theorem writeAt_eq_ok_iff_of_leads (leads : Leads segments) :
    writeAt segments buf offset = (out, .ok stop) ↔
      ∃ bs, Segment.bytes? segments = some bs ∧ offset + bs.length ≤ buf.length ∧
        out = buf.take offset ++ bs ++ buf.drop (offset + bs.length) ∧
        stop = offset + bs.length := by
  by_cases inside : offset ≤ buf.length
  · exact writeAt_eq_ok_iff inside
  · constructor
    · intro h
      have full : (Pen.openAt buf offset).ahead = [] := by
        simp only [Pen.openAt, List.drop_eq_nil_iff]
        omega
      obtain ⟨fault, stopped, -⟩ := Pen.write_of_full leads full
      rw [writeAt, stopped] at h
      cases h
    · rintro ⟨bs, -, room, -⟩
      omega

theorem writeAt_nil (buf : Bytes) (offset : Nat) : writeAt [] buf offset = (buf, .ok offset) := by
  simp only [writeAt, Pen.write, Pen.buffer_openAt]
  rfl

theorem writeAt_refuse (e : FrameError) (buf : Bytes) (offset : Nat) :
    writeAt [.refuse e] buf offset = (buf, refuse e) := by
  simp only [writeAt, Segment.refuse, Pen.write, Pen.buffer_openAt]
  rfl

end WriteAt

/-! ### What bodies are refused for -/

/-- Measuring fails only because something does not fit. -/
def Measures {α : Type} (length : Except FrameError α) : Prop :=
  ∀ e, length = .error e → e.Unfit

namespace Measures

theorem ok {α : Type} (a : α) : Measures (.ok a) := by
  intro e h
  cases h

theorem error {α : Type} {e : FrameError} (unfit : e.Unfit) :
    Measures (.error e : Except FrameError α) := by
  intro e' h
  cases h
  exact unfit

theorem bind {α β : Type} {x : Except FrameError α} {f : α → Except FrameError β}
    (first : Measures x) (next : ∀ a, Measures (f a)) : Measures (x >>= f) := by
  cases x with
  | ok a => exact next a
  | error e => exact .error (first e rfl)

end Measures

namespace TextField

theorem measures (w : Width) (s : String) : Measures (length w s) := by
  unfold length
  split
  · exact .error (.text _ _)
  · exact .ok _

theorem onlyRefuse (w : Width) (s : String) : OnlyRefuse (segments w s) := by
  unfold segments
  split
  · exact .refuse (.text _ _)
  · exact (OnlyRefuse.put _).append (.put _)

end TextField

namespace Headers

theorem measures (w : Width) (h : Headers) : Measures (h.length w) := by
  unfold length
  split
  · exact .error (.headers _)
  · generalize w.bytes = start
    induction h.entries generalizing start with
    | nil => exact .ok start
    | cons entry rest ih =>
      rw [List.foldlM_cons]
      apply Measures.bind
      · apply (TextField.measures w entry.1).bind
        intro key
        apply (TextField.measures w entry.2).bind
        intro value
        exact .ok _
      · exact ih

theorem onlyRefuse (w : Width) (h : Headers) : OnlyRefuse (h.segments w) := by
  unfold segments
  split
  · exact .refuse (.headers _)
  · apply (OnlyRefuse.put _).append
    apply OnlyRefuse.flatMap
    intro entry
    exact (TextField.onlyRefuse w entry.1).append (TextField.onlyRefuse w entry.2)

end Headers

theorem Checksum.onlyRefuse (c : Checksum) : OnlyRefuse c.segments := by
  unfold segments
  split
  · exact .put _
  · exact (OnlyRefuse.put _).append (.put _)

namespace Chunks

theorem measures_sizes (chunks : List Bytes) : Measures (sizes chunks) := by
  induction chunks with
  | nil => exact .ok 0
  | cons chunk rest ih =>
    unfold sizes
    split
    · exact .error (.text _ _)
    · exact ih.bind fun _ => .ok _

theorem measures (chunks : List Bytes) : Measures (length chunks) := by
  unfold length
  split
  · exact .error (.args _)
  · exact measures_sizes chunks

theorem onlyRefuse (chunks : List Bytes) : OnlyRefuse (segments chunks) := by
  unfold segments
  split
  · rename_i e failed
    exact .refuse (measures chunks e failed)
  · apply OnlyRefuse.flatMap
    intro chunk
    exact (OnlyRefuse.put _).append (.put _)

end Chunks

namespace Handshake

theorem onlyRefuse (h : Handshake) : OnlyRefuse h.segments := by
  unfold segments
  split
  · exact .refuse (.missing _)
  · exact (OnlyRefuse.put _).append (h.headers.onlyRefuse .wide)

theorem leads (h : Handshake) : Leads h.segments := by
  unfold segments
  split
  · exact True.intro
  · exact leads_put (List.cons_ne_nil _ _) _

theorem segments_of_missingKey {h : Handshake}
    (missing : ¬ ("host_port" ∈ h.headers.keys ∧ "process_name" ∈ h.headers.keys)) :
    ∃ key, h.segments = [.refuse (.missingInitHeader key)] := by
  rw [← missingKey?_eq_none_iff] at missing
  obtain ⟨key, found⟩ := Option.ne_none_iff_exists'.mp missing
  exact ⟨key, by rw [segments, found]⟩

end Handshake

namespace Body

/-- A handshake names the host and the process. Other bodies need no headers. -/
def Complete {ε : Type} : Body ε → Prop
  | initRequest h | initResponse h =>
      "host_port" ∈ h.headers.keys ∧ "process_name" ∈ h.headers.keys
  | _ => True

variable {b : Body ErrorResponse}

theorem measures (b : Body ErrorResponse) : Measures b.length := by
  cases b with
  | initRequest h | initResponse h => exact (h.headers.measures _).bind fun _ => .ok _
  | callRequest r =>
    exact (TextField.measures _ r.service).bind fun _ => (r.headers.measures _).bind fun _ =>
      (Chunks.measures r.args).bind fun _ => .ok _
  | callResponse r =>
    exact (r.headers.measures _).bind fun _ => (Chunks.measures r.args).bind fun _ => .ok _
  | callRequestCont r | callResponseCont r => exact (Chunks.measures r.args).bind fun _ => .ok _
  | cancel c => exact (TextField.measures _ c.why).bind fun _ => .ok _
  | claim c => exact .ok _
  | pingRequest | pingResponse => exact .ok _
  | error e => exact (TextField.measures _ e.message).bind fun _ => .ok _

theorem onlyRefuse (b : Body ErrorResponse) : OnlyRefuse b.segments := by
  have two (bs cs : Bytes) : OnlyRefuse [.put bs, .put cs] := (OnlyRefuse.put bs).append (.put cs)
  have three (bs cs ds : Bytes) : OnlyRefuse [.put bs, .put cs, .put ds] :=
    (OnlyRefuse.put bs).append (two cs ds)
  cases b with
  | initRequest h | initResponse h => exact h.onlyRefuse
  | callRequest r =>
    exact ((((three _ _ _).append (TextField.onlyRefuse _ _)).append (Headers.onlyRefuse _ _)).append
      (Checksum.onlyRefuse _)).append (Chunks.onlyRefuse _)
  | callResponse r =>
    exact (((three _ _ _).append (Headers.onlyRefuse _ _)).append (Checksum.onlyRefuse _)).append
      (Chunks.onlyRefuse _)
  | callRequestCont r | callResponseCont r =>
    exact ((OnlyRefuse.put _).append r.checksum.onlyRefuse).append (Chunks.onlyRefuse r.args)
  | cancel c => exact (two _ _).append (TextField.onlyRefuse _ _)
  | claim c => exact two _ _
  | pingRequest | pingResponse => exact .nil
  | error e => exact (two _ _).append (TextField.onlyRefuse _ _)

/-- Bodies that are not empty begin with bytes of a fixed size, or with a refusal. -/
theorem empty_or_leads (b : Body ErrorResponse) : b.segments = [] ∨ Leads b.segments := by
  cases b with
  | pingRequest | pingResponse => exact .inl rfl
  | initRequest h | initResponse h => exact .inr h.leads
  | _ => exact .inr (leads_put (List.cons_ne_nil _ _) _)

/-- A handshake that is not complete stops at once. -/
theorem segments_of_incomplete (incomplete : ¬ b.Complete) : ∃ key,
    b.segments = [.refuse (.missingInitHeader key)] := by
  cases b with
  | initRequest h | initResponse h => exact Handshake.segments_of_missingKey incomplete
  | _ => exact absurd True.intro incomplete

/-- **A body has a string exactly if its size can be worked out and no header is missing.** -/
theorem spells_iff {n : Nat} : Spells b.segments n ↔ b.length = .ok n ∧ b.Complete := by
  constructor
  · intro spells
    refine ⟨Body.length_of_spells spells, ?_⟩
    by_contra incomplete
    obtain ⟨key, stops⟩ := segments_of_incomplete incomplete
    rw [stops] at spells
    exact Spells.not_refuse _ spells
  · rintro ⟨length, complete⟩
    cases b with
    | initRequest h | initResponse h =>
      exact Handshake.spells (Handshake.missingKey?_eq_none_iff.mpr complete) length
    | callRequest r => exact CallRequest.spells length
    | callResponse r => exact CallResponse.spells length
    | callRequestCont r | callResponseCont r => exact Continuation.spells length
    | cancel c => exact Cancel.spells length
    | claim c =>
      cases length
      exact c.spells
    | pingRequest | pingResponse =>
      cases length
      exact .nil
    | error e => exact ErrorResponse.spells length

end Body

namespace HeldBody

variable {body : HeldBody} {b : Body ErrorResponse} {buf out : Bytes} {offset stop n : Nat}

theorem complete_of_live (live : body.live = .ok b) : body.Complete ↔ b.Complete := by
  cases body with
  | error h =>
    obtain ⟨e, -, hb⟩ := bind_eq_ok_iff.mp live
    cases hb
    exact Iff.rfl
  | _ =>
    cases live
    exact Iff.rfl

theorem segments_of_live (live : body.live = .ok b) : body.segments = b.segments := by
  rw [segments, live]

theorem length_of_live (live : body.live = .ok b) :
    body.length = Outcome.ofExcept b.length := by
  rw [length, live]
  rfl

theorem spells_iff (live : body.live = .ok b) :
    Spells body.segments n ↔ body.length = .ok n ∧ body.Complete := by
  rw [segments_of_live live, length_of_live live, Outcome.ofExcept_eq_ok_iff,
    complete_of_live live, Body.spells_iff]

/-- Writing a body succeeds exactly if it has a string and there is room for it. An empty one needs
no room. -/
theorem writeAt_eq_ok_iff (live : body.live = .ok b) :
    writeAt body.segments buf offset = (out, .ok stop) ↔
      ∃ bs, Segment.bytes? body.segments = some bs ∧
        (bs.length = 0 ∨ offset + bs.length ≤ buf.length) ∧
        out = buf.take offset ++ bs ++ buf.drop (offset + bs.length) ∧
        stop = offset + bs.length := by
  rw [segments_of_live live]
  obtain empty | leads := b.empty_or_leads
  · rw [empty, writeAt_nil]
    simp [Segment.bytes?, eq_comm]
  · rw [writeAt_eq_ok_iff_of_leads leads]
    constructor
    · rintro ⟨bs, spelled, room, same⟩
      exact ⟨bs, spelled, .inr room, same⟩
    · rintro ⟨bs, spelled, room, same⟩
      have nonempty := leads.string_ne_nil spelled
      exact ⟨bs, spelled, room.resolve_left (nonempty <| List.length_eq_zero_iff.mp ·), same⟩

/-- What the size of a body, its headers and the room in a buffer tell of writing it. -/
structure Measured (body : HeldBody) (buf : Bytes) (offset : Nat) : Prop where
  /-- Writing succeeds exactly if the body can be measured, no header is missing and there is
  room. An empty body needs none. -/
  succeeds : (∃ out stop, writeAt body.segments buf offset = (out, .ok stop)) ↔
    ∃ n, body.length = .ok n ∧ body.Complete ∧ (n = 0 ∨ offset + n ≤ buf.length)
  /-- Then it ends behind the body, and no other byte has changed. -/
  within : ∀ out stop, writeAt body.segments buf offset = (out, .ok stop) →
    ∃ n, body.length = .ok n ∧ stop = offset + n ∧ out.length = buf.length ∧
      ∀ i, i < offset ∨ offset + n ≤ i → out[i]? = buf[i]?
  /-- If only room is missing, that is what is reported. -/
  short : ∀ n, body.length = .ok n → body.Complete → n ≠ 0 → buf.length < offset + n →
    ∃ out fault, writeAt body.segments buf offset = (out, .error fault) ∧ fault.IsShortWrite
  /-- A body that cannot be measured is refused, however large the buffer is. -/
  unmeasured : ∀ fault, body.length = .error fault →
    ∃ out e, writeAt body.segments buf offset = (out, refuse e)
  /-- Whenever writing fails, no byte in front of the offset has changed. -/
  before : ∀ out fault, writeAt body.segments buf offset = (out, .error fault) →
    out.length = buf.length ∧ ∀ i < offset, out[i]? = buf[i]?
  /-- A handshake without a header that it must have is not written at all. -/
  incomplete : ¬ body.Complete →
    ∃ key, writeAt body.segments buf offset = (buf, refuse (.missingInitHeader key))

theorem exists_writeAt_iff (live : body.live = .ok b) :
    (∃ out stop, writeAt body.segments buf offset = (out, .ok stop)) ↔
      ∃ n, body.length = .ok n ∧ body.Complete ∧ (n = 0 ∨ offset + n ≤ buf.length) := by
  constructor
  · rintro ⟨out, stop, written⟩
    obtain ⟨bs, spelled, room, -, -⟩ := (writeAt_eq_ok_iff live).mp written
    obtain ⟨length, complete⟩ := (spells_iff live).mp ⟨bs, spelled, rfl⟩
    exact ⟨bs.length, length, complete, room⟩
  · rintro ⟨n, length, complete, room⟩
    obtain ⟨bs, spelled, rfl⟩ := (spells_iff live).mpr ⟨length, complete⟩
    exact ⟨_, _, (writeAt_eq_ok_iff live).mpr ⟨bs, spelled, room, rfl, rfl⟩⟩

/-- Where writing fails, the body is not empty, and the fault is known. -/
theorem fault_of_writeAt (live : body.live = .ok b) {fault : Fault FrameError}
    (failed : writeAt body.segments buf offset = (out, .error fault)) :
    .stop fault ∈ body.segments ∨ fault.IsShortWrite := by
  rw [segments_of_live live] at *
  obtain empty | leads := b.empty_or_leads
  · rw [empty, writeAt_nil] at failed
    cases failed
  · exact CallWire.fault_of_writeAt leads failed

/-- A body that could be measured and is complete is not written only for want of room. -/
theorem short_of_room (live : body.live = .ok b) (length : body.length = .ok n)
    (complete : body.Complete) (nonzero : n ≠ 0) (short : buf.length < offset + n) :
    ∃ out fault, writeAt body.segments buf offset = (out, .error fault) ∧ fault.IsShortWrite := by
  obtain ⟨bs, spelled, rfl⟩ := (spells_iff live).mpr ⟨length, complete⟩
  obtain ⟨out, outcome, written⟩ : ∃ out outcome,
    writeAt body.segments buf offset = (out, outcome) := ⟨_, _, rfl⟩
  cases outcome with
  | ok stop =>
    obtain ⟨cs, spelled', room, -⟩ := (writeAt_eq_ok_iff live).mp written
    rw [spelled, Option.some.injEq] at spelled'
    subst spelled'
    omega
  | error fault =>
    have stops := fault_of_writeAt live written
    exact ⟨out, fault, written, stops.resolve_left (Segment.stop_notMem_of_spelled spelled)⟩

/-- Writing a body fails only because something does not fit. -/
theorem unfit_of_writeAt (live : body.live = .ok b) {fault : Fault FrameError}
    (failed : writeAt body.segments buf offset = (out, .error fault)) :
    ∃ e, fault = .refused e ∧ e.Unfit := by
  rw [segments_of_live live] at failed
  obtain empty | leads := b.empty_or_leads
  · rw [empty, writeAt_nil] at failed
    cases failed
  · exact CallWire.unfit_of_writeAt leads b.onlyRefuse failed

/-- A body that cannot be measured is refused. -/
theorem refused_of_length (live : body.live = .ok b) {fault : Fault FrameError}
    (unmeasured : body.length = .error fault) (buf : Bytes) (offset : Nat) :
    ∃ out e, writeAt body.segments buf offset = (out, refuse e) := by
  obtain ⟨out, outcome, written⟩ : ∃ out outcome,
    writeAt body.segments buf offset = (out, outcome) := ⟨_, _, rfl⟩
  cases outcome with
  | ok stop =>
    obtain ⟨n, length, -⟩ := (exists_writeAt_iff live).mp ⟨out, stop, written⟩
    rw [unmeasured] at length
    cases length
  | error fault =>
    obtain ⟨e, rfl, -⟩ := unfit_of_writeAt live written
    exact ⟨out, e, written⟩

/-- **Writing a body does what its size, its headers and the room in the buffer tell.** -/
theorem writeAt_measured (live : body.live = .ok b) (buf : Bytes) (offset : Nat) :
    body.Measured buf offset where
  succeeds := exists_writeAt_iff live
  within out stop written := by
    obtain ⟨bs, spelled, room, made, ends⟩ := (writeAt_eq_ok_iff live).mp written
    obtain ⟨length, -⟩ := (spells_iff live).mp ⟨bs, spelled, rfl⟩
    have size := length_writeAt body.segments buf offset
    rw [written] at size
    refine ⟨bs.length, length, ends, size, ?_⟩
    rintro i (before | behind)
    · have front := getElem?_writeAt_of_lt body.segments buf before
      rwa [written] at front
    · rw [made, getElem?_replaced_of_le room behind]
  short n length complete some short := short_of_room live length complete some short
  unmeasured fault length := refused_of_length live length buf offset
  before out fault failed := by
    have size := length_writeAt body.segments buf offset
    have front {i : Nat} (before : i < offset) := getElem?_writeAt_of_lt body.segments buf before
    rw [failed] at size front
    exact ⟨size, fun i before => front before⟩
  incomplete missing := by
    rw [complete_of_live live] at missing
    obtain ⟨key, stops⟩ := Body.segments_of_incomplete missing
    refine ⟨key, ?_⟩
    rw [segments_of_live live, stops, writeAt_refuse]

/-- A request whose flags are written before it turns out that there is no room for the rest. -/
theorem writeAt_measured_sampleRequest : ∃ b, Frame.sampleRequest.live = .ok b ∧
    Frame.sampleRequest.Measured [9, 9, 9] 1 ∧
    (writeAt Frame.sampleRequest.segments [9, 9, 9] 1).1 = [9, 1, 9] := by
  refine ⟨_, rfl, writeAt_measured rfl [9, 9, 9] 1, ?_⟩
  decide +kernel

end HeldBody

end CallWire
