import CallWire.Proofs.Refusals

/-!
# Errors name the call they belong to

When a frame cannot be read, the header decides whether the error names a call. It does if the
header could be read as far as the id and its type is one of those that belong to calls; what is
wrong behind the header is then wrapped once, with the id that stands there
(`ConnectionPools.readFrame_correlated`).

* `ConnectionPools.fails_of_readFrame`: all that a frame can be refused for;
* `ErrorResponse.runAt_eq_undefined_iff`: an undefined code is reported whatever follows its
  tracing value;
* `ConnectionPools.short_of_cut`: of a frame that is cut short no more is said than that.
-/

namespace CallWire

namespace FrameType

/-- The bytes that stand for the types of frames that belong to a call. -/
def callNumbers : List UInt8 := [0x03, 0x04, 0x13, 0x14, 0xc0, 0xc1, 0xff]

theorem isCall_iff (type : FrameType) : type.isCall = true ↔ type.number ∈ callNumbers := by
  cases type <;> decide

theorem ofNumber?_of_call {n : UInt8} (call : n ∈ callNumbers) : ofNumber? n ≠ none := by
  have known : callNumbers.all (fun n => (ofNumber? n).isSome) = true := by decide
  rw [List.all_eq_true] at known
  exact Option.isSome_iff_ne_none.mp (known n call)

end FrameType

namespace FrameError

theorem root_of_plain {e : FrameError} (plain : e.frameId? = none) : e.root = e := by
  cases e with
  | call id source => cases plain
  | _ => rfl

/-- Errors of a body name no call by themselves. -/
theorem Misread.plain {type : FrameType} {e : FrameError} (misread : Misread type e) :
    e.frameId? = none := by
  cases misread with
  | malformed malformed => cases malformed <;> rfl
  | code number tracing => rfl

end FrameError

namespace FrameHeader

variable {buf : Bytes} {offset : Nat} {h : FrameHeader} {e : FrameError}

/-- The header at the offset names a call: its size is there and large enough, its type belongs to
calls, and its id is there. -/
structure NamesCall (buf : Bytes) (offset : Nat) : Prop where
  sized : offset + 2 ≤ buf.length
  large : FrameLayout.overhead ≤ (declaredSize (buf.drop offset)).toNat
  typed : declaredType (buf.drop offset) ∈ FrameType.callNumbers
  identified : offset + FrameLayout.idOffset + 4 ≤ buf.length

/-- A header that can be read names a call exactly if it is of such a type. -/
theorem namesCall_iff_of_read (found : read buf offset = .ok h) :
    NamesCall buf offset ↔ h.type.isCall = true := by
  obtain ⟨room, parsed⟩ := read_eq_ok_iff.mp found
  obtain ⟨large, size, type, -⟩ := parse_eq_ok_iff.mp parsed
  rw [FrameType.isCall_iff, FrameType.number_of_ofNumber? type]
  constructor
  · exact fun names => names.typed
  · intro typed
    simp only [FrameLayout.idOffset] at room
    exact ⟨by omega, size ▸ large, typed, room⟩

/-- A header that cannot be read names no call. -/
theorem not_namesCall_of_read (failed : read buf offset = refuse e) : ¬ NamesCall buf offset := by
  intro names
  have known := failed ▸ headerRead buf offset
  cases known with
  | short short => exact absurd names.identified (Nat.not_le.mpr short)
  | undersized _ small => exact absurd names.large (Nat.not_le.mpr small)
  | unknown _ unknown => exact FrameType.ofNumber?_of_call names.typed unknown

/-- What is wrong with a header is said without naming a call. -/
theorem plain_of_read (failed : read buf offset = refuse e) : e.frameId? = none := by
  have known := failed ▸ headerRead buf offset
  cases known <;> rfl

theorem bigEndian_declaredId (room : offset + FrameLayout.idOffset + 4 ≤ buf.length) :
    Bytes.bigEndian 4 (declaredId (buf.drop offset)).toNat =
      (buf.drop (offset + FrameLayout.idOffset)).take 4 := by
  have four : ((buf.drop (offset + FrameLayout.idOffset)).take 4).length = 4 := by
    rw [List.length_take, List.length_drop]
    omega
  have small := Bytes.ofBigEndian_lt ((buf.drop (offset + FrameLayout.idOffset)).take 4)
  have again := Bytes.bigEndian_ofBigEndian ((buf.drop (offset + FrameLayout.idOffset)).take 4)
  rw [four] at small again
  rw [declaredId, List.drop_drop, UInt32.toNat_ofNat_of_lt' small, again]

/-- The error is tagged as the header demands: with the id that stands there if the header names a
call, around an error that names none; and else not at all. -/
inductive Tagged (buf : Bytes) (offset : Nat) : FrameError → Prop
  | call {id : UInt32} {source : FrameError} : NamesCall buf offset →
      Bytes.bigEndian 4 id.toNat = (buf.drop (offset + FrameLayout.idOffset)).take 4 →
      source.frameId? = none → Tagged buf offset (.call id source)
  | plain {e : FrameError} : ¬ NamesCall buf offset → e.frameId? = none → Tagged buf offset e

theorem Tagged.report (found : read buf offset = .ok h) (plain : e.frameId? = none) :
    Tagged buf offset (h.report e) := by
  have names := namesCall_iff_of_read found
  unfold FrameHeader.report
  by_cases call : h.type.isCall = true
  · obtain ⟨room, parsed⟩ := read_eq_ok_iff.mp found
    obtain ⟨-, -, -, id⟩ := parse_eq_ok_iff.mp parsed
    rw [if_pos call]
    exact .call (names.mpr call) (id ▸ bigEndian_declaredId room) plain
  · rw [if_neg call]
    exact .plain (mt names.mp call) plain

theorem root_report (plain : e.frameId? = none) : (h.report e).root = e := by
  unfold report
  split
  · exact FrameError.root_of_plain plain
  · exact FrameError.root_of_plain plain

end FrameHeader

/-- An undefined code of an error frame is reported with the tracing value behind it, if both stand
within the frame. -/
theorem ErrorResponse.runAt_eq_undefined_iff {buf : Bytes} {offset size : Nat} {code : UInt8}
    {tracing : Tracing} (room : offset + size ≤ buf.length) :
    (Body.read .errorResponse).runAt (buf.take (offset + size)) (offset + FrameLayout.bodyOffset) =
        refuse (.invalidErrorCode code tracing) ↔
      FrameLayout.bodyOffset + 1 + Tracing.width ≤ size ∧
        buf[offset + FrameLayout.bodyOffset]? = some code ∧ ErrorCode.ofNumber? code = none ∧
        tracing.bytes = (buf.drop (offset + FrameLayout.bodyOffset + 1)).take Tracing.width := by
  rw [refuse, Reader.runAt_eq_error_iff, Body.read, Reader.map_eq_error_iff, ← refuse,
    read_openAt_eq_undefined_iff, List.length_take, Nat.min_eq_left room]
  have within (fits : FrameLayout.bodyOffset + 1 + Tracing.width ≤ size) :
      (buf.take (offset + size))[offset + FrameLayout.bodyOffset]? =
          buf[offset + FrameLayout.bodyOffset]? ∧
        ((buf.take (offset + size)).drop (offset + FrameLayout.bodyOffset + 1)).take Tracing.width =
          (buf.drop (offset + FrameLayout.bodyOffset + 1)).take Tracing.width ∧
        ((buf.drop (offset + FrameLayout.bodyOffset + 1)).take Tracing.width).length =
          Tracing.width := by
    refine ⟨List.getElem?_take_of_lt (by omega), FrameHeader.field_take buf (by omega), ?_⟩
    rw [List.length_take, List.length_drop]
    omega
  constructor
  · rintro ⟨here, undefined, fits, rfl⟩
    have fits : FrameLayout.bodyOffset + 1 + Tracing.width ≤ size := by omega
    obtain ⟨byte, bytes, width⟩ := within fits
    rw [byte] at here
    rw [bytes, Tracing.bytes_ofBytes width]
    exact ⟨fits, here, undefined, rfl⟩
  · rintro ⟨fits, here, undefined, same⟩
    obtain ⟨byte, bytes, -⟩ := within fits
    refine ⟨byte.trans here, undefined, by omega, ?_⟩
    rw [bytes, ← same, Tracing.ofBytes_bytes]

namespace ConnectionPools

variable {buf : Bytes} {offset : Nat} {p : ConnectionPools} {e : FrameError}

/-- **Whatever a frame is refused for, the error is tagged as the header demands.** -/
theorem ReadFails.tagged (fails : ReadFails buf offset e) : FrameHeader.Tagged buf offset e := by
  cases fails with
  | header failed =>
    exact .plain (FrameHeader.not_namesCall_of_read failed) (FrameHeader.plain_of_read failed)
  | truncated found _ => exact .report found rfl
  | body found _ _ misread => exact .report found misread.plain

/-- The frame at the offset is an error frame that lies wholly in the buffer, with an undefined code
and a tracing value behind it, both within the size that the frame declares. -/
structure UndefinedCode (buf : Bytes) (offset : Nat) (code : UInt8) (tracing : Tracing) : Prop where
  whole : FrameHeader.Inside buf offset
  typed : FrameHeader.declaredType (buf.drop offset) = FrameType.errorResponse.number
  fits : FrameLayout.bodyOffset + 1 + Tracing.width ≤
    (FrameHeader.declaredSize (buf.drop offset)).toNat
  here : buf[offset + FrameLayout.bodyOffset]? = some code
  undefined : ErrorCode.ofNumber? code = none
  behind : tracing.bytes = (buf.drop (offset + FrameLayout.bodyOffset + 1)).take Tracing.width

/-- Only an error frame with an undefined code is refused for that. -/
theorem ReadFails.undefinedCode {code : UInt8} {tracing : Tracing} (fails : ReadFails buf offset e)
    (root : e.root = .invalidErrorCode code tracing) : UndefinedCode buf offset code tracing := by
  cases fails with
  | header failed =>
    rw [FrameError.root_of_plain (FrameHeader.plain_of_read failed)] at root
    subst root
    have known := failed ▸ FrameHeader.headerRead buf offset
    cases known
  | truncated found _ =>
    rw [FrameHeader.root_report rfl] at root
    cases root
  | @body h _ found complete failed misread =>
    rw [FrameHeader.root_report misread.plain] at root
    subst root
    obtain ⟨room, parsed⟩ := FrameHeader.read_eq_ok_iff.mp found
    obtain ⟨-, size, type, -⟩ := FrameHeader.parse_eq_ok_iff.mp parsed
    obtain ⟨_, type', _⟩ := h
    cases misread with
    | malformed malformed => cases malformed
    | code _ _ =>
      obtain ⟨fits, here, undefined, behind⟩ :=
        (ErrorResponse.runAt_eq_undefined_iff complete).mp failed
      simp only [FrameLayout.idOffset] at room
      exact ⟨⟨by omega, size ▸ complete⟩, (FrameType.number_of_ofNumber? type).symm,
        size ▸ fits, here, undefined, behind⟩

theorem UndefinedCode.refused {code : UInt8} {tracing : Tracing}
    (undefined : UndefinedCode buf offset code tracing) (p : ConnectionPools) :
    ∃ e, (p.readFrame buf offset).1 = refuse e ∧ e.root = .invalidErrorCode code tracing := by
  obtain ⟨whole, typed, fits, here, unknown, behind⟩ := undefined
  have large : FrameLayout.overhead ≤ (FrameHeader.declaredSize (buf.drop offset)).toNat := by
    simp only [FrameLayout.bodyOffset] at fits
    omega
  have parsed : FrameHeader.parse (buf.drop offset) = .ok
      ⟨FrameHeader.declaredSize (buf.drop offset), .errorResponse,
        FrameHeader.declaredId (buf.drop offset)⟩ :=
    FrameHeader.parse_eq_ok_iff.mpr ⟨large, rfl, typed ▸ FrameType.ofNumber?_number _, rfl⟩
  have failed := (ErrorResponse.runAt_eq_undefined_iff whole.2).mpr ⟨fits, here, unknown, behind⟩
  rw [p.readFrame_of_inside whole, parsed]
  simp only [bind, Except.bind, failed]
  exact ⟨_, rfl, rfl⟩

/-- Of a frame that is cut short no more is said than that. -/
theorem short_of_cut {stop k : Nat} {h : Pooled Frame}
    (read : (p.readFrame buf offset).1 = .ok (stop, h)) (cut : k < stop) (q : ConnectionPools) :
    ∃ e, (q.readFrame (buf.take k) offset).1 = refuse e ∧ e.isShortRead = true := by
  obtain ⟨inside, header, _, _, parsed, rfl, -, -⟩ := readFrame_eq_ok_iff.mp read
  obtain ⟨large, size, type, -⟩ := FrameHeader.parse_eq_ok_iff.mp parsed
  -- What is left of the header is as it was, so that it is lacking bytes and not wrong.
  have shorter : (buf.take k).length ≤ k := List.length_take_le k buf
  have front : (buf.take k).drop offset = (buf.drop offset).take (k - offset) := List.drop_take
  have sized (room : offset + 2 ≤ (buf.take k).length) :
      FrameHeader.declaredSize ((buf.take k).drop offset) = header.size := by
    rw [front, FrameHeader.declaredSize_take _ (by omega), size]
  cases again : (q.readFrame (buf.take k) offset).1 with
  | ok x =>
    have room := inside_of_readFrame again
    have all := room.2
    rw [sized room.1] at all
    omega
  | error fault =>
    obtain ⟨e, rfl, fails⟩ := fails_of_readFrame again
    refine ⟨e, rfl, ?_⟩
    cases fails with
    | header failed =>
      have known := failed ▸ FrameHeader.headerRead (buf.take k) offset
      cases known with
      | short => rfl
      | undersized room small =>
        rw [sized room] at small
        exact absurd large (Nat.not_le.mpr small)
      | unknown room unknown =>
        rw [front, FrameHeader.declaredType_take _ (by omega), type] at unknown
        cases unknown
    | truncated found _ => rw [FrameError.isShortRead, FrameHeader.root_report rfl]
    | body found complete =>
      obtain ⟨room, size'⟩ := FrameHeader.size_of_read found
      rw [size', sized room] at complete
      omega

/-- What the error of a frame that cannot be read tells. -/
structure Correlated (p : ConnectionPools) (buf : Bytes) (offset : Nat) : Prop where
  /-- Every failure is a refusal. -/
  refused : ∀ fault, (p.readFrame buf offset).1 = .error fault → ∃ e, fault = .refused e
  /-- The error belongs to a call exactly if the header names one. -/
  tagged : ∀ e, (p.readFrame buf offset).1 = refuse e →
    ((∃ id source, e = .call id source) ↔ FrameHeader.NamesCall buf offset)
  /-- Its id is then the one that stands in the header, and it is tagged once. -/
  named : ∀ e, (p.readFrame buf offset).1 = refuse e → FrameHeader.NamesCall buf offset →
    ∃ id source, e = .call id source ∧ e.frameId? = some id ∧
      Bytes.bigEndian 4 id.toNat = (buf.drop (offset + FrameLayout.idOffset)).take 4 ∧
      ∀ inner deeper, source ≠ .call inner deeper
  /-- Any other error names no call. -/
  untagged : ∀ e, (p.readFrame buf offset).1 = refuse e → ¬ FrameHeader.NamesCall buf offset →
    e.frameId? = none
  /-- An undefined code is at the root exactly if the frame holds one with a tracing value behind
  it, whatever follows, and is reported with that value. -/
  undefinedCode : ∀ code tracing,
    (∃ e, (p.readFrame buf offset).1 = refuse e ∧ e.root = .invalidErrorCode code tracing) ↔
      UndefinedCode buf offset code tracing
  /-- If the frame can be read, then as long as any of its bytes is lacking it is refused for that,
  and for nothing else. -/
  cut : ∀ stop h, (p.readFrame buf offset).1 = .ok (stop, h) → ∀ k < stop, ∀ q : ConnectionPools,
    ∃ e, (q.readFrame (buf.take k) offset).1 = refuse e ∧ e.isShortRead = true

/-- **Errors name the call they belong to**, whatever bytes the frame is read from. -/
theorem readFrame_correlated (p : ConnectionPools) (buf : Bytes) (offset : Nat) :
    p.Correlated buf offset where
  refused fault failed := by
    obtain ⟨e, same, -⟩ := fails_of_readFrame failed
    exact ⟨e, same⟩
  tagged e failed := by
    cases fails_of_refused failed |>.tagged with
    | call names => exact ⟨fun _ => names, fun _ => ⟨_, _, rfl⟩⟩
    | plain others plain =>
      constructor
      · rintro ⟨id, source, rfl⟩
        cases plain
      · exact fun names => absurd names others
  named e failed names := by
    cases fails_of_refused failed |>.tagged with
    | @call id source _ stands plain =>
      refine ⟨id, source, rfl, rfl, stands, ?_⟩
      rintro inner deeper rfl
      cases plain
    | plain others => exact absurd names others
  untagged e failed others := by
    cases fails_of_refused failed |>.tagged with
    | call names => exact absurd names others
    | plain _ plain => exact plain
  undefinedCode code tracing := by
    constructor
    · rintro ⟨e, failed, root⟩
      exact (fails_of_refused failed).undefinedCode root
    · exact fun undefined => undefined.refused p
  cut stop h read k cut q := short_of_cut read cut q

/-- An error frame behind two other bytes. Its code is undefined, and its message is cut short. -/
def garbled : Bytes := [5, 5] ++ (LazyFrame.failedWith 99).take 42 ++ [0, 200]

/-- The code is reported for the call that the frame names, and the message is not looked at. A frame
that can be read is short without its last byte. -/
theorem readFrame_correlated_garbled :
    (∃ e id, (empty.readFrame garbled 2).1 = refuse e ∧ e.frameId? = some id ∧
        Bytes.bigEndian 4 id.toNat = [0, 0, 0, 9] ∧
        e.root = .invalidErrorCode 99 (.ofBytes (List.replicate Tracing.width 7))) ∧
      (∃ h, (empty.readFrame (LazyFrame.failedWith 4) 0).1 = .ok (44, h)) ∧
      ∃ e, (empty.readFrame ((LazyFrame.failedWith 4).take 43) 0).1 = refuse e ∧
        e.isShortRead = true := by
  have names : FrameHeader.NamesCall garbled 2 := by
    constructor <;> decide
  have undefined : UndefinedCode garbled 2 99 (.ofBytes (List.replicate Tracing.width 7)) :=
    ⟨⟨by decide, by decide⟩, by decide, by decide, rfl, rfl, rfl⟩
  refine ⟨?_, ⟨_, rfl⟩, ?_⟩
  · have correlated := readFrame_correlated empty garbled 2
    obtain ⟨e, failed, root⟩ := (correlated.undefinedCode _ _).mpr undefined
    obtain ⟨id, source, -, tagged, stands, -⟩ := correlated.named e failed names
    exact ⟨e, id, failed, tagged, stands, root⟩
  · exact (readFrame_correlated empty (LazyFrame.failedWith 4) 0).cut 44 _ rfl 43 (by decide) empty

end ConnectionPools

end CallWire
