import CallWire.Proofs.Decoding

/-!
# What the pools of a connection are owed

The counters of the three pools say how many handles of each kind are outstanding, modulo `2 ^ 64`
(`ConnectionPools.Owes`). For each operation of a connection there is one lemma that says what it
adds and what it settles. A decoder that fails leaves the pools owed what they were.
-/

namespace CallWire

theorem UInt64.ofNat_succ_sub_one (n : Nat) : UInt64.ofNat (n + 1) - 1 = UInt64.ofNat n := by
  rw [UInt64.ofNat_add]
  exact UInt64.add_sub_cancel _ _

/-- A handle that its pool counts was given back, or holds a value. -/
theorem Pooled.cases_of_counted {α : Type} {h : Pooled α} (counted : h.counted = true) :
    h = ⟨none, true⟩ ∨ ∃ a, h = ⟨some a, true⟩ := by
  obtain ⟨value?, handed⟩ := h
  cases counted
  cases value? with
  | none => exact Or.inl rfl
  | some a => exact Or.inr ⟨a, rfl⟩

namespace Pool

variable {α ε : Type}

theorem outstanding_get (p : Pool α) :
    p.get.2.stats.outstanding = p.stats.outstanding + 1 := by
  unfold get
  split <;> rfl

theorem exists_get (p : Pool α) : ∃ a, p.get.1 = ⟨some a, true⟩ := by
  unfold get
  split <;> exact ⟨_, rfl⟩

end Pool

namespace HeldBody

/-- How many live handles on error responses there are in a body that may be there. -/
def errorsIn : Option HeldBody → Nat
  | some (.error h) => if h.isFreed then 0 else 1
  | _ => 0

/-- An error response in a body that may be there is behind a handle that its pool counts. -/
def CountedIn : Option HeldBody → Prop
  | some (.error h) => h.counted = true
  | _ => True

/-- A body of another type holds no handle. -/
theorem no_errors {b : HeldBody} (other : b.frameType ≠ .errorResponse) :
    CountedIn (some b) ∧ errorsIn (some b) = 0 := by
  cases b with
  | error h => exact absurd rfl other
  | _ => exact ⟨trivial, rfl⟩

end HeldBody

namespace ConnectionPools

open HeldBody (errorsIn CountedIn)

/-- So many handles of each kind are outstanding, as far as the counters can tell. -/
structure Owes (p : ConnectionPools) (frames lazyFrames errors : Nat) : Prop where
  frames : p.frames.stats.outstanding = UInt64.ofNat frames
  lazyFrames : p.lazyFrames.stats.outstanding = UInt64.ofNat lazyFrames
  errors : p.errors.stats.outstanding = UInt64.ofNat errors

namespace Owes

variable {p : ConnectionPools} {f l e : Nat}

theorem empty : ConnectionPools.empty.Owes 0 0 0 := ⟨rfl, rfl, rfl⟩

/-- A pool that comes into being owes nothing more. -/
theorem touchFrames (owes : p.Owes f l e) :
    ConnectionPools.Owes { p with frames? := some p.frames } f l e :=
  ⟨owes.frames, owes.lazyFrames, owes.errors⟩

theorem touchLazyFrames (owes : p.Owes f l e) :
    ConnectionPools.Owes { p with lazyFrames? := some p.lazyFrames } f l e :=
  ⟨owes.frames, owes.lazyFrames, owes.errors⟩

theorem takeFrame (owes : p.Owes f l e) : p.takeFrame.2.Owes (f + 1) l e := by
  refine ⟨?_, owes.lazyFrames, owes.errors⟩
  rw [UInt64.ofNat_add, ← owes.frames]
  exact p.frames.outstanding_get

theorem takeLazyFrame (owes : p.Owes f l e) : p.takeLazyFrame.2.Owes f (l + 1) e := by
  refine ⟨owes.frames, ?_, owes.errors⟩
  rw [UInt64.ofNat_add, ← owes.lazyFrames]
  exact p.lazyFrames.outstanding_get

theorem takeError (owes : p.Owes f l e) : p.takeError.2.Owes f l (e + 1) := by
  refine ⟨owes.frames, owes.lazyFrames, ?_⟩
  rw [UInt64.ofNat_add, ← owes.errors]
  exact p.errors.outstanding_get

theorem freeError (owes : p.Owes f l (e + 1)) (r : ErrorResponse) :
    (p.freeError ⟨some r, true⟩).2.Owes f l e := by
  refine ⟨owes.frames, owes.lazyFrames, ?_⟩
  rw [← UInt64.ofNat_succ_sub_one, ← owes.errors]
  rfl

/-- A body settles the handle that it holds. -/
theorem freeBody? {b? : Option HeldBody} (owes : p.Owes f l (e + errorsIn b?))
    (counted : CountedIn b?) : (p.freeBody? b?).Owes f l e := by
  match b?, counted with
  | none, _ => exact owes
  | some b, counted =>
    cases b with
    | error h =>
      rcases Pooled.cases_of_counted counted with rfl | ⟨r, rfl⟩
      · exact owes
      · exact owes.freeError r
    | _ => exact owes

/-- A body that is read adds the handle that it holds; one that cannot be read adds none. -/
theorem readBody (owes : p.Owes f l e) (type : FrameType) (buf : Bytes) (offset : Nat) :
    match p.readBody type buf offset with
    | (.ok (_, b), q) => CountedIn (some b) ∧ q.Owes f l (e + errorsIn (some b))
    | (.error _, q) => q.Owes f l e := by
  by_cases error : type = .errorResponse
  · subst error
    obtain ⟨blank, handle⟩ : ∃ a, p.takeError.1 = ⟨some a, true⟩ := p.errors.exists_get
    unfold ConnectionPools.readBody
    simp only [handle]
    rcases ErrorResponse.read.runAt buf offset with fault | ⟨n, r⟩
    · exact owes.takeError.freeError blank
    · exact ⟨rfl, owes.takeError⟩
  · rw [readBody_of_ne error]
    cases read : (Body.read type).runAt buf offset with
    | error fault => exact owes
    | ok x =>
      obtain ⟨c, read, -⟩ := Reader.runAt_eq_ok_iff.mp read
      have other : (HeldBody.ofBody x.2).frameType ≠ .errorResponse := by
        rw [HeldBody.ofBody, Body.frameType_mapError, Body.frameType_of_read read]
        exact error
      obtain ⟨counted, zero⟩ := HeldBody.no_errors other
      exact ⟨counted, zero ▸ owes⟩

theorem readFrame (owes : p.Owes f l e) (buf : Bytes) (offset : Nat) :
    match p.readFrame buf offset with
    | (.ok (_, h), q) => ∃ frame, h = ⟨some frame, true⟩ ∧ CountedIn frame.body? ∧
        q.Owes (f + 1) l (e + errorsIn frame.body?)
    | (.error _, q) => q.Owes f l e := by
  unfold ConnectionPools.readFrame
  cases FrameHeader.read buf offset with
  | error fault => exact owes
  | ok header =>
    simp only
    by_cases complete : Bytes.covers (offset + header.size.toNat) buf = true
    · have body := owes.readBody header.type (buf.take (offset + header.size.toNat))
        (offset + FrameLayout.bodyOffset)
      rw [if_pos complete]
      generalize p.readBody header.type (buf.take (offset + header.size.toNat))
        (offset + FrameLayout.bodyOffset) = result at body ⊢
      rcases result with ⟨fault | ⟨n, b⟩, q⟩
      · exact body
      · obtain ⟨blank, handle⟩ : ∃ a, q.takeFrame.1 = ⟨some a, true⟩ := q.frames.exists_get
        simp only [handle]
        exact ⟨_, rfl, body.1, body.2.takeFrame⟩
    · obtain ⟨fault, refused⟩ :=
        truncated_eq_error (Nat × HeldBody) header.size buf offset
      rw [if_neg complete, refused]
      exact owes

theorem readLazyFrame (owes : p.Owes f l e) (buf : Bytes) (offset : Nat) :
    match p.readLazyFrame buf offset with
    | (.ok (_, h), q) => ∃ frame, h = ⟨some frame, true⟩ ∧ frame.body? = none ∧ q.Owes f (l + 1) e
    | (.error _, q) => q.Owes f l e := by
  rw [readLazyFrame_eq]
  cases read : LazyFrame.read buf offset with
  | error fault => exact owes
  | ok x => exact ⟨x.2, rfl, LazyFrame.body?_of_read read, owes.takeLazyFrame⟩

/-- Once its body is decoded, a lazy frame holds what was added. -/
theorem decodeBody {frame : LazyFrame} (owes : p.Owes f l (e + errorsIn frame.body?))
    (counted : CountedIn frame.body?) :
    match p.decodeBody frame with
    | (.ok (_, decoded), q) => CountedIn decoded.body? ∧ q.Owes f l (e + errorsIn decoded.body?)
    | (.error _, q) => q.Owes f l (e + errorsIn frame.body?) := by
  unfold ConnectionPools.decodeBody
  cases cached : frame.body? with
  | some body => exact ⟨counted, owes⟩
  | none =>
    rw [cached] at owes
    simp only
    rcases frame.view with fault | view
    · exact owes
    · cases frame.type? with
      | none => exact owes
      | some type =>
        have body := owes.readBody type view FrameLayout.bodyOffset
        simp only
        generalize p.readBody type view FrameLayout.bodyOffset = result at body ⊢
        rcases result with ⟨fault | ⟨n, b⟩, q⟩
        · exact body
        · exact body

theorem freeFrame {frame : Frame} (owes : p.Owes (f + 1) l (e + errorsIn frame.body?))
    (counted : CountedIn frame.body?) :
    ∃ q, p.freeFrame ⟨some frame, true⟩ = (.ok ⟨none, true⟩, q) ∧ q.Owes f l e := by
  have body := owes.freeBody? counted
  refine ⟨_, rfl, ?_, body.lazyFrames, body.errors⟩
  rw [← UInt64.ofNat_succ_sub_one, ← body.frames]
  rfl

theorem freeLazyFrame {frame : LazyFrame} (owes : p.Owes f (l + 1) (e + errorsIn frame.body?))
    (counted : CountedIn frame.body?) :
    ∃ q, p.freeLazyFrame ⟨some frame, true⟩ = (.ok ⟨none, true⟩, q) ∧ q.Owes f l e := by
  have body := owes.freeBody? counted
  refine ⟨_, rfl, body.frames, ?_, body.errors⟩
  rw [← UInt64.ofNat_succ_sub_one, ← body.lazyFrames]
  rfl

end Owes

end ConnectionPools

end CallWire
