import CallWire.Proofs.Decoding
import CallWire.Proofs.Splitting

/-!
# Splitting a stream does not depend on how it arrives

A stream is cut into frames from the left, at the sizes that they declare (`pieces`). However it is
fed to a splitter, and whenever that is asked, it reports the pieces in this order, each as the lazy
frame that is read from it or as an unknown type, and loses no byte (`Intake.run_splits`).

* `FrameSplitter.next_cases`: what a splitter does when it is asked;
* `Intake.accounts_run`: what has been reported and what waits make up what has arrived.
-/

namespace CallWire

open FrameHeader (declaredSize declaredType)

/-- All bytes of the frame in front are there. -/
def Complete (bs : Bytes) : Prop :=
  FrameLayout.overhead ≤ (declaredSize bs).toNat ∧ (declaredSize bs).toNat ≤ bs.length

/-- The size field in front is there, and too small for any frame. -/
def Undersized (bs : Bytes) : Prop :=
  2 ≤ bs.length ∧ (declaredSize bs).toNat < FrameLayout.overhead

/-- Bytes are lacking of the frame in front. -/
def Incomplete (bs : Bytes) : Prop :=
  bs.length < 2 ∨ FrameLayout.overhead ≤ (declaredSize bs).toNat ∧
    bs.length < (declaredSize bs).toNat

instance (bs : Bytes) : Decidable (Complete bs) := inferInstanceAs (Decidable (_ ∧ _))

/-- The pieces of a stream, cut off from the left at the declared sizes, up to the first size that
is too small or the first frame of which bytes are lacking. -/
def pieces (bs : Bytes) : List Bytes :=
  if _complete : Complete bs then
    bs.take (declaredSize bs).toNat :: pieces (bs.drop (declaredSize bs).toNat)
  else []
termination_by bs.length
decreasing_by
  obtain ⟨large, there⟩ := _complete
  simp only [FrameLayout.overhead, List.length_drop] at *
  omega

/-- The bytes declare just themselves. -/
def Whole (piece : Bytes) : Prop :=
  FrameLayout.overhead ≤ piece.length ∧ (declaredSize piece).toNat = piece.length

/-- The lazy frame that a piece is read as. -/
def frameOf (piece : Bytes) : Outcome LazyFrame := (·.2) <$> LazyFrame.read piece 0

variable {bs piece rest : Bytes}

theorem toNat_declaredSize (bs : Bytes) :
    (declaredSize bs).toNat = Bytes.ofBigEndian (bs.take 2) := by
  refine UInt16.toNat_ofNat_of_lt' (Nat.lt_of_lt_of_le (Bytes.ofBigEndian_lt _) ?_)
  rw [List.length_take]
  have : min 2 bs.length = 0 ∨ min 2 bs.length = 1 ∨ min 2 bs.length = 2 := by omega
  rcases this with zero | one | two
  · rw [zero]; decide
  · rw [one]; decide
  · rw [two]; decide

theorem cases_front (bs : Bytes) : Incomplete bs ∨ Undersized bs ∨ Complete bs := by
  unfold Incomplete Undersized Complete
  omega

theorem Undersized.not_complete (undersized : Undersized bs) : ¬ Complete bs :=
  fun complete => absurd undersized.2 (Nat.not_lt.mpr complete.1)

theorem Incomplete.not_complete (incomplete : Incomplete bs) : ¬ Complete bs := by
  rintro ⟨large, there⟩
  rcases incomplete with short | ⟨-, less⟩
  · simp only [FrameLayout.overhead] at large
    omega
  · omega

/-- The piece in front is whole. -/
theorem Complete.whole (complete : Complete bs) : Whole (bs.take (declaredSize bs).toNat) := by
  obtain ⟨large, there⟩ := complete
  obtain ⟨size, -⟩ := FrameHeader.declared_take bs large
  rw [Whole, size, List.length_take, Nat.min_eq_left there]
  exact ⟨large, rfl⟩

/-- A whole piece is cut off in front of whatever follows. -/
theorem pieces_append (whole : Whole piece) (rest : Bytes) :
    pieces (piece ++ rest) = piece :: pieces rest := by
  obtain ⟨large, size⟩ := whole
  have same : declaredSize (piece ++ rest) = declaredSize piece := by
    obtain ⟨first, -⟩ := FrameHeader.declared_take (piece ++ rest) large
    rw [List.take_left] at first
    exact first.symm
  have complete : Complete (piece ++ rest) := by
    rw [Complete, same, size, List.length_append]
    exact ⟨large, Nat.le_add_right _ _⟩
  rw [pieces, dif_pos complete, same, size, List.take_left, List.drop_left]

theorem pieces_flatten_append {taken : List Bytes} (whole : ∀ piece ∈ taken, Whole piece)
    (rest : Bytes) : pieces (taken.flatten ++ rest) = taken ++ pieces rest := by
  induction taken with
  | nil => rfl
  | cons piece more ih =>
    rw [List.flatten_cons, List.append_assoc, pieces_append (whole piece List.mem_cons_self),
      ih fun k hk => whole k (List.mem_cons_of_mem _ hk), List.cons_append]

/-- A whole piece is a lazy frame with just its bytes, or of an unknown type. -/
theorem Whole.read_cases (whole : Whole piece) :
    (∃ f, LazyFrame.read piece 0 = .ok (piece.length, f) ∧ f.view? = some piece) ∨
      ∃ n, LazyFrame.read piece 0 = refuse (.invalidFrameType n) := by
  obtain ⟨large, size⟩ := whole
  have inside : FrameHeader.Inside piece 0 := by
    simp only [FrameHeader.Inside, List.drop_zero, size, FrameLayout.overhead] at *
    omega
  have view : FrameHeader.frameAt piece 0 = piece := by
    rw [FrameHeader.frameAt, List.drop_zero, size, List.take_length]
  rw [LazyFrame.read_eq_parse inside, view, List.drop_zero]
  cases parsed : FrameHeader.parse piece with
  | ok header =>
    obtain ⟨-, declared, -⟩ := FrameHeader.parse_eq_ok_iff.mp parsed
    refine Or.inl ⟨.ofHeader header piece, ?_, rfl⟩
    simp only [Functor.map, Except.map, ← declared, size, Nat.zero_add]
  | error fault =>
    refine Or.inr ⟨declaredType piece, ?_⟩
    unfold FrameHeader.parse FrameHeader.typeOf at parsed
    rw [if_neg (by omega)] at parsed
    cases known : FrameType.ofNumber? (declaredType piece) with
    | none =>
      rw [known] at parsed
      cases parsed
      rfl
    | some type =>
      rw [known] at parsed
      cases parsed

theorem Whole.frameOf_cases (whole : Whole piece) :
    (∃ f, frameOf piece = .ok f ∧ f.view? = some piece) ∨
      ∃ n, frameOf piece = refuse (.invalidFrameType n) := by
  unfold frameOf
  rcases whole.read_cases with ⟨f, read, view⟩ | ⟨n, read⟩
  · rw [read]
    exact Or.inl ⟨f, rfl, view⟩
  · rw [read]
    exact Or.inr ⟨n, rfl⟩

/-- No body is known yet of the lazy frame. -/
theorem body?_of_frameOf {f : LazyFrame} (read : frameOf piece = .ok f) : f.body? = none := by
  unfold frameOf at read
  cases found : LazyFrame.read piece 0 with
  | error fault =>
    rw [found] at read
    cases read
  | ok x =>
    rw [found] at read
    cases read
    exact LazyFrame.body?_of_read found

namespace FrameSplitter

/-- What a splitter does when it is asked: what it answers, what it leaves of the pools, and which
bytes still wait. Nothing is taken out until the frame in front has arrived; then that frame is, and
the pools serve it unless its type is unknown. -/
theorem next_cases (s : FrameSplitter) (p : ConnectionPools) :
    (Incomplete s.buffered ∧ (s.next p).1 = .ok none ∧ (s.next p).2.1 = p ∧
      (s.next p).2.2.buffered = s.buffered) ∨
    (Undersized s.buffered ∧
      (s.next p).1 = refuse (.invalidFrameSize (declaredSize s.buffered)) ∧
      (s.next p).2.1 = p ∧ (s.next p).2.2.buffered = s.buffered) ∨
    ∃ piece, Whole piece ∧ s.buffered = piece ++ (s.next p).2.2.buffered ∧
      ((∃ f, frameOf piece = .ok f ∧ (s.next p).1 = .ok (some ⟨some f, true⟩) ∧
          (s.next p).2.1 = p.takeLazyFrame.2) ∨
        ∃ n, frameOf piece = refuse (.invalidFrameType n) ∧
          (s.next p).1 = refuse (.invalidFrameType n) ∧ (s.next p).2.1 = p) := by
  have size := toNat_declaredSize s.buffered
  rcases cases_front s.buffered with lacking | undersized | complete
  · obtain ⟨t, next, same⟩ : ∃ t, s.next p = (.ok none, p, t) ∧ t.buffered = s.buffered := by
      rcases Nat.lt_or_ge s.buffered.length 2 with short | two
      · exact next_of_short p short
      · rcases lacking with short | ⟨large, less⟩
        · exact next_of_short p short
        · exact next_of_incomplete p two size.symm large less
    rw [next]
    exact Or.inl ⟨lacking, rfl, rfl, same⟩
  · obtain ⟨t, next, same⟩ := next_of_undersized p undersized.1 size.symm undersized.2
    rw [UInt16.ofNat_toNat] at next
    rw [next]
    exact Or.inr (Or.inl ⟨undersized, rfl, rfl, same⟩)
  · obtain ⟨large, there⟩ := id complete
    have two : 2 ≤ s.buffered.length := by
      simp only [FrameLayout.overhead] at large
      omega
    obtain ⟨t, next, left⟩ := next_of_whole p two size.symm large there
    refine Or.inr (Or.inr ⟨_, complete.whole, ?_, ?_⟩)
    · rw [next, left, List.take_append_drop]
    · rw [next, ConnectionPools.readLazyFrame_eq, frameOf]
      rcases complete.whole.read_cases with ⟨f, read, -⟩ | ⟨n, read⟩
      · rw [read]
        exact Or.inl ⟨f, rfl, rfl, rfl⟩
      · rw [read]
        exact Or.inr ⟨n, rfl, rfl, rfl⟩

/-- A size that is too small is reported whenever the splitter is asked. -/
theorem next_undersized {s : FrameSplitter} (undersized : Undersized s.buffered)
    (p : ConnectionPools) :
    (s.next p).1 = refuse (.invalidFrameSize (declaredSize s.buffered)) := by
  obtain ⟨t, next, -⟩ :=
    next_of_undersized p undersized.1 (toNat_declaredSize s.buffered).symm undersized.2
  rw [next, UInt16.ofNat_toNat]

/-- A frame of unknown type is taken out alone. -/
theorem next_unknown {s : FrameSplitter} {p : ConnectionPools} {n : UInt8}
    (answer : (s.next p).1 = refuse (.invalidFrameType n)) :
    (s.next p).2.1 = p ∧ ∃ piece, Whole piece ∧ s.buffered = piece ++ (s.next p).2.2.buffered := by
  rcases s.next_cases p with ⟨-, known, -, -⟩ | ⟨-, known, -, -⟩ |
    ⟨piece, whole, split, ⟨f, -, known, -⟩ | ⟨k, -, -, pools⟩⟩
  · cases known.symm.trans answer
  · cases known.symm.trans answer
  · cases known.symm.trans answer
  · exact ⟨pools, piece, whole, split⟩

end FrameSplitter

/-- A splitter, with what it has answered so far. -/
structure Intake where
  splitter : FrameSplitter
  answers : List (Outcome (Option (Pooled LazyFrame)))

namespace Intake

/-- What can happen to a splitter: bytes arrive, or it is asked for a frame, with the pools as they
are by then. -/
inductive Action where
  | feed (bs : Bytes)
  | poll (pools : ConnectionPools)

/-- Nothing has arrived yet. -/
def empty : Intake := ⟨.empty, []⟩

def step (i : Intake) : Action → Intake
  | .feed bs => { i with splitter := i.splitter.feed bs }
  | .poll p => ⟨(i.splitter.next p).2.2, i.answers ++ [(i.splitter.next p).1]⟩

/-- The splitter after some actions. -/
def run (i : Intake) (actions : List Action) : Intake := actions.foldl step i

/-- All bytes that arrive. -/
def fed (actions : List Action) : Bytes :=
  actions.flatMap fun
    | .feed bs => bs
    | .poll _ => []

/-- What an answer tells of a frame. That bytes are lacking or a size is too small tells nothing. -/
def news : Outcome (Option (Pooled LazyFrame)) → Option (Outcome LazyFrame)
  | .ok none | .error (.refused (.invalidFrameSize _)) => none
  | .ok (some h) => some h.get
  | .error fault => some (.error fault)

/-- What has been told of frames. -/
def told (i : Intake) : List (Outcome LazyFrame) := i.answers.filterMap news

/-- The bytes that wait in the splitter. -/
def waiting (i : Intake) : Bytes := i.splitter.buffered

/-- What has been told of, followed by what waits, is all that has arrived. -/
def Accounts (all : Bytes) (i : Intake) : Prop :=
  ∃ taken : List Bytes, (∀ piece ∈ taken, Whole piece) ∧ i.told = taken.map frameOf ∧
    taken.flatten ++ i.waiting = all

variable {i : Intake} {all : Bytes}

theorem accounts_empty : Accounts [] empty := ⟨[], by simp, rfl, rfl⟩

theorem waiting_feed (i : Intake) (bs : Bytes) : (i.step (.feed bs)).waiting = i.waiting ++ bs :=
  FrameSplitter.buffered_feed i.splitter bs

/-- Asking a splitter tells nothing and leaves it as it was, or tells of the piece in front, which
is taken out. -/
theorem poll_cases (i : Intake) (p : ConnectionPools) :
    (¬ Complete i.waiting ∧ news (i.splitter.next p).1 = none ∧
      (i.step (.poll p)).told = i.told ∧ (i.step (.poll p)).waiting = i.waiting) ∨
    ∃ piece, Whole piece ∧ news (i.splitter.next p).1 = some (frameOf piece) ∧
      (i.step (.poll p)).told = i.told ++ [frameOf piece] ∧
      i.waiting = piece ++ (i.step (.poll p)).waiting := by
  have told : (i.step (.poll p)).told = i.told ++ (news (i.splitter.next p).1).toList := by
    simp only [Intake.told, step, List.filterMap_append]
    cases found : news (i.splitter.next p).1 <;> simp [found]
  have waits : (i.step (.poll p)).waiting = (i.splitter.next p).2.2.buffered := rfl
  rw [told, waits]
  rcases i.splitter.next_cases p with ⟨lacking, answer, -, same⟩ | ⟨undersized, answer, -, same⟩ |
    ⟨piece, whole, split, ⟨f, read, answer, -⟩ | ⟨n, read, answer, -⟩⟩
  · rw [answer]
    exact Or.inl ⟨lacking.not_complete, rfl, List.append_nil _, same⟩
  · rw [answer]
    exact Or.inl ⟨undersized.not_complete, rfl, List.append_nil _, same⟩
  · rw [answer]
    exact Or.inr ⟨piece, whole, congrArg some read.symm, read ▸ rfl, split⟩
  · rw [answer]
    exact Or.inr ⟨piece, whole, congrArg some read.symm, read ▸ rfl, split⟩

theorem accounts_step (accounts : Accounts all i) (a : Action) :
    Accounts (all ++ fed [a]) (i.step a) := by
  obtain ⟨taken, whole, told, rfl⟩ := accounts
  cases a with
  | feed bs =>
    refine ⟨taken, whole, told, ?_⟩
    rw [waiting_feed, ← List.append_assoc]
    simp [fed]
  | poll p =>
    rw [show fed [.poll p] = [] from rfl, List.append_nil]
    rcases i.poll_cases p with ⟨-, -, same, waits⟩ | ⟨piece, here, -, more, waits⟩
    · exact ⟨taken, whole, same.trans told, by rw [waits]⟩
    · refine ⟨taken ++ [piece], ?_, ?_, ?_⟩
      · exact List.forall_mem_append.mpr ⟨whole, List.forall_mem_singleton.mpr here⟩
      · rw [more, told, List.map_append, List.map_singleton]
      · rw [waits, List.flatten_append, List.flatten_singleton, List.append_assoc]

theorem accounts_run (accounts : Accounts all i) (actions : List Action) :
    Accounts (all ++ fed actions) (i.run actions) := by
  induction actions generalizing i all with
  | nil =>
    rw [show fed [] = [] from rfl, List.append_nil]
    exact accounts
  | cons a rest ih =>
    have split : fed (a :: rest) = fed [a] ++ fed rest := by
      rw [fed, fed, fed, ← List.flatMap_append, List.singleton_append]
    rw [split, ← List.append_assoc]
    exact ih (accounts_step accounts a)

/-- What is told of are the pieces of what has arrived, but for those that wait. -/
theorem Accounts.pieces_eq (accounts : Accounts all i) (rest : Bytes) :
    (pieces (all ++ rest)).map frameOf = i.told ++ (pieces (i.waiting ++ rest)).map frameOf := by
  obtain ⟨taken, whole, told, rfl⟩ := accounts
  rw [List.append_assoc, pieces_flatten_append whole, List.map_append, told]

theorem pieces_eq_nil_iff {bs : Bytes} : pieces bs = [] ↔ ¬ Complete bs := by
  rw [pieces]
  split <;> simp [*]

/-- Asking a splitter takes the piece in front out of it, if there is one. -/
theorem pieces_poll (i : Intake) (p : ConnectionPools) :
    pieces (i.step (.poll p)).waiting = (pieces i.waiting).tail := by
  rcases i.poll_cases p with ⟨incomplete, -, -, waits⟩ | ⟨piece, whole, -, -, waits⟩
  · rw [waits, pieces_eq_nil_iff.mpr incomplete, List.tail_nil]
  · rw [waits, pieces_append whole, List.tail_cons]

theorem pieces_polls (i : Intake) (polls : List ConnectionPools) :
    pieces (i.run (polls.map .poll)).waiting = (pieces i.waiting).drop polls.length := by
  induction polls generalizing i with
  | nil => rfl
  | cons p rest ih =>
    show pieces ((i.step (.poll p)).run (rest.map .poll)).waiting = _
    rw [ih, pieces_poll, List.drop_tail, List.length_cons]

/-- Nothing is told as long as no piece waits. -/
theorem news_eq_none_iff {p : ConnectionPools} :
    news (i.splitter.next p).1 = none ↔ pieces i.waiting = [] := by
  rw [pieces_eq_nil_iff]
  rcases i.poll_cases p with ⟨incomplete, quiet, -⟩ | ⟨piece, whole, told, -, waits⟩
  · exact iff_of_true quiet incomplete
  · refine iff_of_false (by simp [told]) (fun incomplete => ?_)
    have := pieces_eq_nil_iff.mpr incomplete
    rw [waits, pieces_append whole] at this
    cases this

/-- A size that is too small stays in front. -/
theorem undersized_run (undersized : Undersized i.waiting) (actions : List Action) :
    Undersized (i.run actions).waiting ∧
      declaredSize (i.run actions).waiting = declaredSize i.waiting := by
  induction actions generalizing i with
  | nil => exact ⟨undersized, rfl⟩
  | cons a rest ih =>
    have step : Undersized (i.step a).waiting ∧
        declaredSize (i.step a).waiting = declaredSize i.waiting := by
      cases a with
      | feed bs =>
        obtain ⟨two, small⟩ := undersized
        have same : declaredSize (i.waiting ++ bs) = declaredSize i.waiting := by
          rw [declaredSize, declaredSize, List.take_append_of_le_length two]
        rw [waiting_feed, Undersized, same, List.length_append]
        exact ⟨⟨Nat.le_add_right_of_le two, small⟩, rfl⟩
      | poll p =>
        rcases i.poll_cases p with ⟨-, -, -, waits⟩ | ⟨piece, whole, -, -, waits⟩
        · rw [waits]
          exact ⟨undersized, rfl⟩
        · have cut := pieces_append whole (i.step (.poll p)).waiting
          rw [← waits, pieces_eq_nil_iff.mpr undersized.not_complete] at cut
          cases cut
    obtain ⟨still, same⟩ := ih step.1
    exact ⟨still, same.trans step.2⟩

/-- An answer that tells nothing takes nothing out. -/
theorem next_quiet {p : ConnectionPools} (quiet : news (i.splitter.next p).1 = none) :
    (i.splitter.next p).2.1 = p ∧ (i.splitter.next p).2.2.buffered = i.waiting := by
  rcases i.splitter.next_cases p with ⟨-, -, pools, same⟩ | ⟨-, -, pools, same⟩ |
    ⟨piece, -, -, ⟨f, -, answer, -⟩ | ⟨n, -, answer, -⟩⟩
  · exact ⟨pools, same⟩
  · exact ⟨pools, same⟩
  · rw [answer] at quiet
    cases quiet
  · rw [answer] at quiet
    cases quiet

/-- A size that is too small is reported from then on. -/
theorem next_stuck {p : ConnectionPools} {n : UInt16}
    (answer : (i.splitter.next p).1 = refuse (.invalidFrameSize n)) (later : List Action)
    (q : ConnectionPools) :
    ((i.run later).splitter.next q).1 = refuse (.invalidFrameSize n) := by
  rcases i.splitter.next_cases p with ⟨-, known, -, -⟩ | ⟨undersized, known, -, -⟩ |
    ⟨piece, -, -, ⟨f, -, known, -⟩ | ⟨k, -, known, -⟩⟩
  · cases known.symm.trans answer
  · cases known.symm.trans answer
    obtain ⟨still, size⟩ := undersized_run undersized later
    rw [FrameSplitter.next_undersized still]
    exact congrArg (refuse <| .invalidFrameSize ·) size
  · cases known.symm.trans answer
  · cases known.symm.trans answer

/-- What a splitter does with a stream, after some feeding and asking. -/
structure Splits (actions : List Action) : Prop where
  /-- What has been told of are pieces, each as it is read from its bytes alone. Their bytes and
  those that wait are what has arrived. -/
  taken : ∃ taken : List Bytes,
    (∀ piece ∈ taken, Whole piece ∧ ((∃ f, frameOf piece = .ok f ∧ f.view? = some piece) ∨
      ∃ n, frameOf piece = refuse (.invalidFrameType n))) ∧
    (empty.run actions).told = taken.map frameOf ∧
    taken.flatten ++ (empty.run actions).waiting = fed actions
  /-- They are the first pieces of the stream, whatever is still to arrive. -/
  first : ∀ rest, (empty.run actions).told <+: (pieces (fed actions ++ rest)).map frameOf
  /-- They are all pieces once an answer tells nothing. -/
  all : ∀ p, news ((empty.run actions).splitter.next p).1 = none →
    (empty.run actions).told = (pieces (fed actions)).map frameOf
  /-- By asking often enough, it comes to that. -/
  ends : ∀ polls : List ConnectionPools, (pieces (fed actions)).length ≤ polls.length →
    ∀ p, news ((empty.run (actions ++ polls.map .poll)).splitter.next p).1 = none
  /-- An answer that tells nothing takes nothing out, neither of the splitter nor of the pools. -/
  quiet : ∀ p, news ((empty.run actions).splitter.next p).1 = none →
    ((empty.run actions).splitter.next p).2.1 = p ∧
      ((empty.run actions).splitter.next p).2.2.buffered = (empty.run actions).waiting
  /-- A size that is too small is reported from then on. -/
  stuck : ∀ p n, ((empty.run actions).splitter.next p).1 = refuse (.invalidFrameSize n) →
    ∀ later q, (((empty.run actions).run later).splitter.next q).1 = refuse (.invalidFrameSize n)
  /-- An unknown type costs its own frame and nothing of the pools. -/
  unknown : ∀ p n, ((empty.run actions).splitter.next p).1 = refuse (.invalidFrameType n) →
    ((empty.run actions).splitter.next p).2.1 = p ∧ ∃ piece, Whole piece ∧
      (empty.run actions).waiting = piece ++ ((empty.run actions).splitter.next p).2.2.buffered

/-- **Splitting does not depend on how a stream arrives,** nor on when the splitter is asked. -/
theorem run_splits (actions : List Action) : Splits actions := by
  have accounts : Accounts (fed actions) (empty.run actions) := accounts_run accounts_empty actions
  have whole := accounts.pieces_eq []
  rw [List.append_nil, List.append_nil] at whole
  refine ⟨?_, ?_, ?_, ?_, ?_, ?_, ?_⟩
  · obtain ⟨taken, whole, told, split⟩ := accounts
    exact ⟨taken, fun piece hp => ⟨whole piece hp, (whole piece hp).frameOf_cases⟩, told, split⟩
  · intro rest
    rw [accounts.pieces_eq rest]
    exact List.prefix_append _ _
  · intro p quiet
    rw [news_eq_none_iff.mp quiet, List.map_nil, List.append_nil] at whole
    exact whole.symm
  · intro polls enough p
    have lengths := congrArg List.length whole
    simp only [List.length_append, List.length_map] at lengths
    rw [news_eq_none_iff, run, List.foldl_append]
    show pieces ((empty.run actions).run (polls.map .poll)).waiting = []
    rw [pieces_polls]
    exact List.drop_eq_nil_of_le (by omega)
  · exact fun p => next_quiet
  · exact fun p n => next_stuck
  · exact fun p n => FrameSplitter.next_unknown

/-- An unknown type, followed by a size that is too small, in two pieces. -/
def badStream : List Action :=
  [.feed ([0, 16, 0x77, 0] ++ Bytes.zeros 10), .poll .empty, .feed [0, 0, 0, 7, 1], .poll .empty,
    .poll .empty]

theorem run_splits_badStream :
    (empty.run badStream).told = [refuse (.invalidFrameType 0x77)] ∧
      (empty.run badStream).told = (pieces (fed badStream)).map frameOf ∧
      (((empty.run badStream).run [.feed [1, 2, 3], .poll .empty]).splitter.next .empty).1 =
        refuse (.invalidFrameSize 7) := by
  have splits := run_splits badStream
  exact ⟨rfl, splits.all .empty rfl, splits.stuck .empty 7 rfl _ _⟩

end Intake

end CallWire
