import CallWire.Tracing

/-!
# What can go wrong

Reading and writing frames ends in one of two ways other than success. A `FrameError` is a refusal:
the bytes or the value do not fit the format, and the caller is told why. A `Breach` is a violated
contract inside the program itself, such as an access outside a buffer; it is kept apart from the
refusals so that its absence can be stated and proved.
-/

namespace CallWire

inductive FrameError where
  | shortRead (needed remaining offset : Nat)
  | shortWrite (needed remaining offset : Nat)
  | invalidFrameType (number : UInt8)
  | invalidFrameSize (size : UInt16)
  | frameTooLarge (size : Nat)
  | invalidErrorCode (number : UInt8) (tracing : Tracing)
  | missingInitHeader (field : String)
  | invalidUtf8 (offset : Nat)
  | stringTooLong (size limit : Nat)
  | tooManyHeaders (count : Nat)
  | tooManyArgs (count : Nat)
  | invalidChecksumType (number : UInt8)
  | corruptLazyFrame (missing : String)
  | emptyFrame
  | lengthMismatch (measured written : Nat)
  /-- The error `source`, met in the body of a frame that belongs to a call. -/
  | call (frameId : UInt32) (source : FrameError)
  deriving DecidableEq

namespace FrameError

/-- The error below any mention of the frame it was met in. -/
def root : FrameError → FrameError
  | call _ source => source.root
  | e => e

def frameId? : FrameError → Option UInt32
  | call id _ => some id
  | _ => none

def isShortRead (e : FrameError) : Bool :=
  match e.root with
  | shortRead .. => true
  | _ => false

def message : FrameError → String
  | shortRead needed remaining offset =>
      s!"short read at offset {offset}: need {needed} bytes, {remaining} remaining"
  | shortWrite needed remaining offset =>
      s!"short write at offset {offset}: need {needed} bytes, {remaining} remaining"
  | invalidFrameType n => "invalid frame type: 0x" ++ Bytes.hex [n]
  | invalidFrameSize n => s!"invalid frame size: {n.toNat} (header alone is 16 bytes)"
  | frameTooLarge n => s!"frame too large: {n} bytes (max 65535)"
  | invalidErrorCode n _ => "invalid error code: 0x" ++ Bytes.hex [n]
  | missingInitHeader field => "missing init header: " ++ field
  | invalidUtf8 offset => s!"invalid utf-8 string at offset {offset}"
  | stringTooLong size limit => s!"string too long: {size} bytes (max {limit})"
  | tooManyHeaders n => s!"too many headers: {n}"
  | tooManyArgs n => s!"too many args in one frame: {n} (max 3)"
  | invalidChecksumType n => "invalid checksum type: 0x" ++ Bytes.hex [n]
  | corruptLazyFrame missing => "corrupt lazy frame: missing " ++ missing
  | emptyFrame => "frame has no body"
  | lengthMismatch measured written =>
      s!"frame length mismatch: measured {measured}, wrote {written}"
  | call id source =>
      "call frame 0x" ++ Bytes.hex (Bytes.bigEndian 4 id.toNat) ++ ": " ++ source.message

end FrameError

/-- A contract that the program itself would have broken. -/
inductive Breach where
  /-- A handle was given back to the named pool a second time. -/
  | doubleFree (pool : String)
  /-- The instance behind a handle was used after it was given back. -/
  | useAfterFree
  /-- Bytes outside a buffer were asked for. -/
  | outOfRange
  /-- A subtraction would have gone below zero. -/
  | belowZero
  /-- A loop would have run on without progress. -/
  | stalled
  /-- An event of an argument stream was still queued where none may be. -/
  | unhandledEvent
  deriving DecidableEq

/-- The text of a breach of the pool's contract; the others have none. -/
def Breach.message? : Breach → Option String
  | doubleFree pool => some ("object pool double free (" ++ pool ++ ")")
  | useAfterFree => some "object pool use after free"
  | _ => none

/-- How an operation fails: with an error that it reports, or with a breach. -/
inductive Fault (ε : Type) where
  | refused (error : ε)
  | breach (breach : Breach)
  deriving DecidableEq

abbrev Outcome := Except (Fault FrameError)

def refuse {α : Type} (e : FrameError) : Outcome α := .error (.refused e)

/-- The outcome of a check that can only refuse. -/
def Outcome.ofExcept {α : Type} : Except FrameError α → Outcome α
  | .ok a => .ok a
  | .error e => refuse e

/-- Rewords the error of a refusal; a breach stays as it is. -/
def Fault.map {ε δ : Type} (f : ε → δ) : Fault ε → Fault δ
  | refused e => refused (f e)
  | breach b => breach b

/-- The difference `a - b`, where the program relies on `b ≤ a`. -/
def difference {ε : Type} (a b : Nat) : Except (Fault ε) Nat :=
  if b ≤ a then .ok (a - b) else .error (.breach .belowZero)

/-- Two steps in a row succeed exactly if both do. -/
theorem bind_eq_ok_iff {ε α β : Type} {x : Except ε α} {f : α → Except ε β} {b : β} :
    x >>= f = .ok b ↔ ∃ a, x = .ok a ∧ f a = .ok b := by
  cases x with
  | ok a => simp [bind, Except.bind]
  | error e => simp [bind, Except.bind]

theorem Outcome.ofExcept_eq_ok_iff {α : Type} {x : Except FrameError α} {a : α} :
    ofExcept x = .ok a ↔ x = .ok a := by
  cases x with
  | ok b => simp [ofExcept]
  | error e => simp [ofExcept, refuse]

theorem difference_eq_ok_iff {ε : Type} {a b c : Nat} :
    (difference a b : Except (Fault ε) Nat) = .ok c ↔ b ≤ a ∧ c = a - b := by
  unfold difference
  split
  · rename_i h
    constructor
    · intro hc
      injection hc with hc
      exact ⟨h, hc.symm⟩
    · rintro ⟨_, rfl⟩
      rfl
  · rename_i h
    constructor
    · intro hc
      cases hc
    · exact fun hc => absurd hc.1 h

end CallWire
