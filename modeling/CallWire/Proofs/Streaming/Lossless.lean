import CallWire.Proofs.Reassembly
import CallWire.Proofs.Streaming.Accepted
import Mathlib.Data.List.Basic

/-!
# What a stream of arguments hands out

A stream of arguments may be flushed at any moment. Where that happens makes no difference: what it
has handed out, joined with what it still holds, is what was accepted for each argument, in order
(`ArgStream.run_lossless`).

* `Live`, `Done`: what the stream is before and after the third argument ends;
* `Keeps.step`, `Keeps.run`: a stream is one or the other until it is made to finish;
* `Answered`: what it answers to each action.
-/

namespace CallWire

/-- What is appended to the last of the arguments is appended to the last chunk. -/
theorem joinBatch_extendLast (front : List Bytes) {chunks : List Bytes} (filled : chunks ≠ [])
    (bs : Bytes) : joinBatch front (extendLast bs chunks) = extendLast bs (joinBatch front chunks) := by
  by_cases empty : front = []
  · subst empty
    rfl
  · obtain ⟨before, chunk, rfl⟩ := exists_concat empty
    obtain ⟨between, last, rfl⟩ := exists_concat filled
    rw [ArgStream.extendLast_concat]
    cases between with
    | nil =>
      simp only [List.nil_append, joinBatch_concat]
      rw [ArgStream.extendLast_concat, List.append_assoc]
    | cons first between =>
      rw [List.cons_append, joinBatch_concat, List.cons_append, joinBatch_concat,
        ← List.cons_append, ← List.append_assoc, ← List.cons_append, ← List.append_assoc,
        ArgStream.extendLast_concat]

namespace ArgStream

/-- The batches that were handed out. -/
def batches (events : List ArgEvent) : List (List Bytes) :=
  events.filterMap fun
    | .parts chunks _ => some chunks
    | _ => none

/-- The chunks that were not handed out yet. A stream that is finished has none. -/
def held (s : ArgStream) : List Bytes := if s.finished then [] else s.pending

/-- An argument further on is open. -/
def Past (s : ArgStream) (arg : ArgIndex) : Prop :=
  ∃ current, s.current? = some current ∧ arg.position < current.position

variable {log : List (Action × List ArgEvent)} {events told : List ArgEvent} {s : ArgStream}
  {n : Nat} {chunks : List Bytes} {arg : ArgIndex} {a : Action}

theorem batches_append (front back : List ArgEvent) :
    batches (front ++ back) = batches front ++ batches back := List.filterMap_append

/-- Every batch has one to three chunks. -/
def Sized (events : List ArgEvent) : Prop :=
  ∀ batch ∈ batches events, 1 ≤ batch.length ∧ batch.length ≤ 3

/-- There is neither a last batch nor an end. -/
def Unmarked (events : List ArgEvent) : Prop :=
  ∀ e ∈ events, e ≠ .finish ∧ ∀ chunks, e ≠ .parts chunks true

/-- A stream on which `n` arguments have ended and that holds `chunks`: they go on with what it has
handed out. -/
structure Live (log : List (Action × List ArgEvent)) (events : List ArgEvent) (s : ArgStream)
    (n : Nat) (chunks : List Bytes) : Prop where
  holds : s.Holds n chunks
  most : n ≤ 2
  filled : chunks ≠ []
  few : chunks.length ≤ n + 1
  opened : Opened log n
  joined : joinBatch (joinAll (batches events)) chunks = arguments log
  sizes : Sized events
  unmarked : Unmarked events

/-- A stream on which the third argument has ended: all was handed out, and every action since was
rejected. -/
structure Done (log : List (Action × List ArgEvent)) (events : List ArgEvent) (s : ArgStream) :
    Prop where
  finished : s.finished = true
  ended : s.ended = 3
  opened : opened log = 3
  joined : joinAll (batches events) = arguments log
  sizes : Sized events
  shape : ∃ front chunks k, Unmarked front ∧
    events = front ++ .parts chunks true :: .finish :: List.replicate k (.error .finished)

theorem sized_append {back : List ArgEvent} (first : Sized events) (second : Sized back) :
    Sized (events ++ back) := by
  intro batch mem
  rw [batches_append, List.mem_append] at mem
  exact mem.elim (first batch) (second batch)

theorem unmarked_append {back : List ArgEvent} (first : Unmarked events) (second : Unmarked back) :
    Unmarked (events ++ back) := by
  intro e mem
  exact (List.mem_append.mp mem).elim (first e) (second e)

namespace Live

/-- What an action reports that brings nothing and hands out nothing leaves the stream alone. -/
theorem same (h : Live log events s n chunks) (idle : Idle (a, told)) (unbatched : batches told = [])
    (plain : Unmarked told) : Live (log ++ [(a, told)]) (events ++ told) s n chunks := by
  have begun : 1 ≤ ArgStream.opened log := by
    rw [h.opened.count]
    exact Nat.succ_le_succ (Nat.zero_le n)
  have quiet : Sized told := by
    intro batch mem
    rw [unbatched] at mem
    cases mem
  exact { h with
    opened := idle.opened h.opened
    joined := by rw [batches_append, unbatched, List.append_nil, idle.arguments_eq begun, h.joined]
    sizes := sized_append h.sizes quiet
    unmarked := unmarked_append h.unmarked plain }

theorem rejects (h : Live log events s n chunks) (a : Action) (e : ArgStreamError) :
    Live (log ++ [(a, [.error e])]) (events ++ [.error e]) s n chunks := by
  apply h.same (idle_of_rejected a rfl) rfl
  intro event mem
  cases List.mem_singleton.mp mem
  simp

theorem write (h : Live log events s n chunks) (next : n ≤ arg.position) (chunk : Bytes) :
    ∃ t held, s.write arg chunk = (t, []) ∧
      Live (log ++ [(.write arg chunk, [])]) events t arg.position held := by
  obtain ⟨t, wrote, -, holds⟩ := write_ok h.holds next chunk
  obtain ⟨opened, arguments⟩ := h.opened.write next chunk
  have few := h.few
  have filled : chunks ++ List.replicate (arg.position - n) [] ≠ [] :=
    List.append_ne_nil_of_left_ne_nil h.filled _
  obtain ⟨front, last, split⟩ := exists_concat filled
  have length := congrArg List.length split
  simp only [List.length_append, List.length_replicate, List.length_singleton] at length
  refine ⟨t, _, wrote, holds, ?_, ?_, ?_, opened, ?_, h.sizes, h.unmarked⟩
  · cases arg <;> decide
  · rw [split, extendLast_concat]
    exact List.concat_ne_nil _ _
  · rw [split, extendLast_concat, List.length_append, List.length_singleton]
    omega
  · rw [joinBatch_extendLast _ filled, joinBatch_append_right _ h.filled, h.joined, arguments]

theorem endArg (h : Live log events s n chunks) (next : n ≤ arg.position) (more : arg.position < 2) :
    ∃ t held, s.endArg arg = (t, []) ∧
      Live (log ++ [(.endArg arg, [])]) events t (arg.position + 1) held := by
  obtain ⟨t, closed, -, holds⟩ := endArg_ok h.holds next more
  have room : min 3 (arg.position + 2) = arg.position + 1 + 1 := by omega
  have kept : rejected [] = false := rfl
  obtain ⟨opened, arguments⟩ := h.opened.endArg arg kept (Nat.le_succ_of_le next) more room
  have few := h.few
  refine ⟨t, _, closed, holds, more, ?_, ?_, opened, ?_, h.sizes, h.unmarked⟩
  · exact List.append_ne_nil_of_left_ne_nil h.filled _
  · rw [List.length_append, List.length_replicate]
    omega
  · rw [joinBatch_append_right _ h.filled, h.joined, arguments]

theorem flush (h : Live log events s n chunks) (dirty : s.dirty = true) :
    s.flush = (idle n, [.parts chunks false]) ∧
      Live (log ++ [(.flush, [.parts chunks false])]) (events ++ [.parts chunks false]) (idle n) n
        [[]] := by
  have quiet : Idle (Action.flush, [ArgEvent.parts chunks false]) := ⟨fun _ => rfl, rfl⟩
  have begun : 1 ≤ ArgStream.opened log := by
    rw [h.opened.count]
    exact Nat.succ_le_succ (Nat.zero_le n)
  have few := h.few
  have most := h.most
  have positive := List.length_pos_iff.mpr h.filled
  have joined : joinBatch (joinAll (batches events)) chunks ≠ [] := by
    rw [h.joined, arguments, h.opened.count]
    simp [ArgIndex.all]
  refine ⟨flush_dirty h.holds dirty, holds_idle n, most, ?_, ?_, quiet.opened h.opened, ?_, ?_, ?_⟩
  · exact List.cons_ne_nil _ _
  · exact Nat.succ_le_succ (Nat.zero_le n)
  · rw [batches_append, joinAll_append, quiet.arguments_eq begun, ← h.joined]
    show joinBatch (joinBatch _ (joinAll [chunks])) [[]] = _
    rw [joinAll_singleton, joinBatch_empty_chunk joined, List.append_nil]
  · apply sized_append h.sizes
    intro batch mem
    cases List.mem_singleton.mp mem
    exact ⟨positive, by omega⟩
  · apply unmarked_append h.unmarked
    intro e mem
    cases List.mem_singleton.mp mem
    simp

/-- The end of the third argument hands out all that is left. -/
theorem last (h : Live log events s n chunks) : ∃ told, s.endArg .arg3 = (spent, told) ∧
    Done (log ++ [(.endArg .arg3, told)]) (events ++ told) spent := by
  have most := h.most
  have few := h.few
  have positive := List.length_pos_iff.mpr h.filled
  have kept (chunks : List Bytes) : rejected [.parts chunks true, .finish] = false := rfl
  obtain ⟨opened, arguments⟩ := h.opened.endArg .arg3
    (kept (chunks ++ List.replicate (2 - n) [])) most (Nat.le_refl 2) rfl
  refine ⟨_, endArg_last h.holds most, rfl, rfl, opened.count, ?_, ?_, events, _, 0, h.unmarked, rfl⟩
  · rw [batches_append, joinAll_append, arguments, ← h.joined, ← joinBatch_append_right _ h.filled]
    exact congrArg _ (joinAll_singleton _)
  · apply sized_append h.sizes
    intro batch mem
    cases List.mem_singleton.mp mem
    rw [List.length_append, List.length_replicate]
    omega

theorem current (h : Live log events s n chunks) :
    ∃ current, s.current? = some current ∧ current.position = n := by
  have most := h.most
  unfold current?
  rw [h.holds.ended]
  obtain rfl | rfl | rfl : n = 0 ∨ n = 1 ∨ n = 2 := by omega
  · exact ⟨_, rfl, rfl⟩
  · exact ⟨_, rfl, rfl⟩
  · exact ⟨_, rfl, rfl⟩

end Live

/-- A stream that is finished rejects what can be rejected, and does nothing else. -/
theorem step_of_finished (finished : s.finished = true) (a : Action) :
    ∃ k, s.step a = (s, List.replicate k (.error .finished)) ∧
      Idle (a, List.replicate k (.error .finished)) := by
  cases a with
  | write arg chunk =>
    exact ⟨1, by simp [step, ArgStream.write, finished], idle_of_rejected _ rfl⟩
  | endArg arg => exact ⟨1, by simp [step, ArgStream.endArg, finished], idle_of_rejected _ rfl⟩
  | flush => exact ⟨0, by simp [step, ArgStream.flush, finished], fun _ => rfl, rfl⟩
  | finishAll => exact ⟨0, by simp [step, ArgStream.finishAll, finished], fun _ => rfl, rfl⟩

theorem run_of_finished (finished : s.finished = true) (actions : List Action) :
    ∃ k, s.run actions = (s, List.replicate k (.error .finished)) := by
  induction actions with
  | nil => exact ⟨0, rfl⟩
  | cons a rest ih =>
    obtain ⟨k, first, -⟩ := step_of_finished finished a
    obtain ⟨m, others⟩ := ih
    refine ⟨k + m, ?_⟩
    simp only [run, first, others, List.replicate_append_replicate]

theorem finished_finishAll (s : ArgStream) : s.finishAll.finished = true := by
  unfold finishAll
  split
  · assumption
  · rfl

theorem batches_replicate (k : Nat) (e : ArgStreamError) :
    batches (List.replicate k (.error e)) = [] := by
  induction k with
  | zero => rfl
  | succ k ih => exact ih

namespace Done

theorem step (h : Done log events s) (a : Action) : ∃ told, s.step a = (s, told) ∧
    Done (log ++ [(a, told)]) (events ++ told) s := by
  obtain ⟨k, same, idle⟩ := step_of_finished h.finished a
  obtain ⟨front, chunks, m, plain, shape⟩ := h.shape
  have begun : 1 ≤ ArgStream.opened log := by
    rw [h.opened]
    decide
  have kept : batches (events ++ List.replicate k (.error .finished)) = batches events := by
    rw [batches_append, batches_replicate, List.append_nil]
  refine ⟨_, same, h.finished, h.ended, (idle.opened_eq begun).trans h.opened, ?_, ?_,
    front, chunks, m + k, plain, ?_⟩
  · rw [kept, idle.arguments_eq begun, h.joined]
  · rw [Sized, kept]
    exact h.sizes
  · rw [shape, List.append_assoc, List.cons_append, List.cons_append,
      List.replicate_append_replicate]

theorem current (h : Done log events s) : s.current? = none := by
  rw [current?, h.ended]
  rfl

end Done

/-- What is known of a stream that was never made to finish. -/
inductive Keeps (log : List (Action × List ArgEvent)) (events : List ArgEvent) (s : ArgStream) :
    Prop where
  | live {n : Nat} {chunks : List Bytes} (h : Live log events s n chunks)
  | done (h : Done log events s)

theorem keeps_empty : Keeps [] [] empty := by
  have holds : empty.Holds 0 [[]] := ⟨rfl, rfl, rfl⟩
  have opened : Opened [] 0 := ⟨rfl, fun _ _ => rfl⟩
  refine .live ⟨holds, Nat.zero_le 2, List.cons_ne_nil _ _, Nat.le_refl 1, opened, rfl, ?_, ?_⟩
  · intro batch mem
    cases mem
  · intro e mem
    cases mem

namespace Keeps

/-- What a single action keeps: nothing but the end of the third argument ends the stream, and
what is rejected leaves it alone. -/
theorem step (h : Keeps log events s) {a : Action} (kept : a ≠ .finishAll) :
    ∃ t told, s.step a = (t, told) ∧ Keeps (log ++ [(a, told)]) (events ++ told) t := by
  cases h with
  | done h =>
    obtain ⟨told, same, next⟩ := h.step a
    exact ⟨s, told, same, .done next⟩
  | @live n chunks h =>
    cases a with
    | write arg chunk =>
      by_cases late : arg.position < n
      · have rejects := write_late h.holds.live (h.holds.ended ▸ late) chunk
        exact ⟨s, _, rejects, .live (h.rejects _ _)⟩
      · obtain ⟨t, held, wrote, next⟩ := h.write (Nat.not_lt.mp late) chunk
        rw [← List.append_nil events] at next
        exact ⟨t, [], wrote, .live next⟩
    | endArg arg =>
      by_cases late : arg.position < n
      · have rejects := endArg_late h.holds.live (h.holds.ended ▸ late)
        exact ⟨s, _, rejects, .live (h.rejects _ _)⟩
      · by_cases more : arg.position < 2
        · obtain ⟨t, held, closed, next⟩ := h.endArg (Nat.not_lt.mp late) more
          rw [← List.append_nil events] at next
          exact ⟨t, [], closed, .live next⟩
        · obtain rfl : arg = .arg3 := by
            cases arg with
            | arg3 => rfl
            | arg1 | arg2 => exact absurd (by decide) more
          obtain ⟨told, closed, next⟩ := h.last
          exact ⟨spent, told, closed, .done next⟩
    | flush =>
      by_cases dirty : s.dirty = true
      · obtain ⟨flushed, next⟩ := h.flush dirty
        exact ⟨_, _, flushed, .live next⟩
      · have clean := flush_clean (Bool.eq_false_iff.mpr dirty)
        refine ⟨s, [], clean, .live (h.same ⟨fun _ => rfl, rfl⟩ rfl ?_)⟩
        intro e mem
        cases mem
    | finishAll => exact absurd rfl kept

theorem run (h : Keeps log events s) {actions : List Action} (kept : .finishAll ∉ actions) :
    Keeps (log ++ s.history actions) (events ++ (s.run actions).2) (s.run actions).1 := by
  induction actions generalizing log events s with
  | nil =>
    simp only [history, ArgStream.run, List.append_nil]
    exact h
  | cons a rest ih =>
    obtain ⟨first, others⟩ := List.ne_and_not_mem_of_not_mem_cons kept
    obtain ⟨t, told, same, next⟩ := h.step first.symm
    have later := ih next others
    simpa only [history, ArgStream.run, same, List.append_assoc, List.singleton_append] using later

/-- What was handed out and what is held are the arguments. -/
theorem joined (h : Keeps log events s) : joinAll (batches events ++ [s.held]) = arguments log := by
  cases h with
  | live h =>
    rw [joinAll_append, joinAll_singleton, held, h.holds.live, ← h.joined, h.holds.pending]
    rfl
  | done h =>
    rw [joinAll_append, joinAll_singleton, held, h.finished, ← h.joined]
    exact joinBatch_nil _

theorem sizes (h : Keeps log events s) : Sized events := by
  cases h with
  | live h => exact h.sizes
  | done h => exact h.sizes

/-- Nothing follows a last batch but the end, and what is rejected from then on. -/
theorem last (h : Keeps log events s) {front back : List ArgEvent}
    (split : events = front ++ .parts chunks true :: back) :
    ∃ k, back = .finish :: List.replicate k (.error .finished) := by
  cases h with
  | live h =>
    have mem : .parts chunks true ∈ events := by simp [split]
    exact absurd rfl ((h.unmarked _ mem).2 chunks)
  | done h =>
    obtain ⟨before, last, k, plain, shape⟩ := h.shape
    have outside : .parts chunks true ∉ before := fun mem => (plain _ mem).2 chunks rfl
    rw [split] at shape
    obtain ⟨-, -, rfl⟩ :=
      (List.append_cons_inj_of_notMem outside (by simp [List.mem_replicate])).mp shape.symm
    exact ⟨k, rfl⟩

/-- The end follows a last batch. -/
theorem finish (h : Keeps log events s) {front back : List ArgEvent}
    (split : events = front ++ .finish :: back) :
    ∃ before chunks, front = before ++ [.parts chunks true] := by
  cases h with
  | live h =>
    have mem : .finish ∈ events := by simp [split]
    exact absurd rfl (h.unmarked _ mem).1
  | done h =>
    obtain ⟨before, last, k, plain, shape⟩ := h.shape
    have outside : .finish ∉ before ++ [.parts last true] := by
      intro mem
      obtain inside | same := List.mem_append.mp mem
      · exact (plain _ inside).1 rfl
      · cases List.mem_singleton.mp same
    have same : before ++ [.parts last true] ++ .finish :: List.replicate k (.error .finished) =
        front ++ .finish :: back := by
      rw [List.append_assoc, List.singleton_append, ← shape, split]
    obtain ⟨rfl, -, -⟩ :=
      (List.append_cons_inj_of_notMem outside (by simp [List.mem_replicate])).mp same
    exact ⟨before, last, rfl⟩

theorem current (h : Keeps log events s) :
    (∀ arg, s.current? = some arg → ArgStream.opened log = arg.position + 1) ∧
      (s.current? = none → ArgStream.opened log = 3) := by
  cases h with
  | live h =>
    obtain ⟨current, found, rfl⟩ := h.current
    rw [found, h.opened.count]
    simp
  | done h => exact ⟨by simp [h.current], fun _ => h.opened⟩

end Keeps

/-- What a stream answers to an action. -/
inductive Answered (s : ArgStream) : Action → ArgStream × List ArgEvent → Prop where
  | lateWrite {arg : ArgIndex} {chunk : Bytes} (past : s.Past arg) :
      Answered s (.write arg chunk) (s, [.error (.writeAfterEnd arg)])
  | lateEnd {arg : ArgIndex} (past : s.Past arg) :
      Answered s (.endArg arg) (s, [.error (.alreadyEnded arg)])
  | overWrite {arg : ArgIndex} {chunk : Bytes} (ended : s.current? = none) :
      Answered s (.write arg chunk) (s, [.error .finished])
  | overEnd {arg : ArgIndex} (ended : s.current? = none) :
      Answered s (.endArg arg) (s, [.error .finished])
  | wrote {arg : ArgIndex} {chunk : Bytes} {t : ArgStream} (unfinished : s.current? ≠ none)
      (next : ¬ s.Past arg) : Answered s (.write arg chunk) (t, [])
  | closed {arg : ArgIndex} {t : ArgStream} (unfinished : s.current? ≠ none) (next : ¬ s.Past arg)
      (more : arg ≠ .arg3) : Answered s (.endArg arg) (t, [])
  | last {t : ArgStream} {chunks : List Bytes} (unfinished : s.current? ≠ none)
      (next : ¬ s.Past .arg3) : Answered s (.endArg .arg3) (t, [.parts chunks true, .finish])
  | flushed {t : ArgStream} {chunks : List Bytes} : Answered s .flush (t, [.parts chunks false])
  | quiet {a : Action} {t : ArgStream} (quiet : a = .flush ∨ a = .finishAll) : Answered s a (t, [])

theorem Live.answered (h : Live log events s n chunks) (a : Action) : Answered s a (s.step a) := by
  obtain ⟨current, found, here⟩ := h.current
  have unfinished : s.current? ≠ none := by simp [found]
  have past (arg : ArgIndex) : s.Past arg ↔ arg.position < n := by
    rw [Past, found, ← here]
    simp
  have intime {arg : ArgIndex} (next : ¬ arg.position < n) : ¬ s.Past arg := by rwa [past]
  cases a with
  | write arg chunk =>
    by_cases late : arg.position < n
    · rw [step, write_late h.holds.live (h.holds.ended ▸ late)]
      exact .lateWrite ((past arg).mpr late)
    · obtain ⟨t, wrote, -⟩ := write_ok h.holds (Nat.not_lt.mp late) chunk
      rw [step, wrote]
      exact .wrote unfinished (intime late)
  | endArg arg =>
    by_cases late : arg.position < n
    · rw [step, endArg_late h.holds.live (h.holds.ended ▸ late)]
      exact .lateEnd ((past arg).mpr late)
    · by_cases third : arg = .arg3
      · subst third
        rw [step, endArg_last h.holds h.most]
        exact .last unfinished (intime late)
      · have more : arg.position < 2 := by
          cases arg with
          | arg3 => exact absurd rfl third
          | arg1 | arg2 => decide
        obtain ⟨t, closed, -⟩ := endArg_ok h.holds (Nat.not_lt.mp late) more
        rw [step, closed]
        exact .closed unfinished (intime late) third
  | flush =>
    by_cases dirty : s.dirty = true
    · rw [step, flush_dirty h.holds dirty]
      exact .flushed
    · rw [step, flush_clean (Bool.eq_false_iff.mpr dirty)]
      exact .quiet (.inl rfl)
  | finishAll => exact .quiet (.inr rfl)

theorem Keeps.answered (h : Keeps log events s) (a : Action) : Answered s a (s.step a) := by
  cases h with
  | live h => exact h.answered a
  | done h =>
    have ended := h.current
    cases a with
    | write arg chunk =>
      have rejects : s.write arg chunk = (s, [.error .finished]) := by
        simp [ArgStream.write, h.finished]
      rw [ArgStream.step, rejects]
      exact .overWrite ended
    | endArg arg =>
      have rejects : s.endArg arg = (s, [.error .finished]) := by simp [endArg, h.finished]
      rw [ArgStream.step, rejects]
      exact .overEnd ended
    | flush =>
      have flushes : s.flush = (s, []) := by simp [flush, h.finished]
      rw [ArgStream.step, flushes]
      exact .quiet (.inl rfl)
    | finishAll => exact .quiet (.inr rfl)

namespace Answered

variable {result : ArgStream × List ArgEvent}

theorem ends (h : Answered s a result) :
    (∃ chunks, .parts chunks true ∈ result.2) ↔ a = .endArg .arg3 ∧ rejected result.2 = false := by
  cases h with
  | last => simp [rejected]
  | closed _ _ more => simp [more]
  | quiet quiet => obtain rfl | rfl := quiet <;> simp
  | _ => simp [rejected]

theorem rejects (h : Answered s a result) {e : ArgStreamError} (told : .error e ∈ result.2) :
    result = (s, [.error e]) := by
  cases h with
  | lateWrite | lateEnd | overWrite | overEnd =>
    cases List.mem_singleton.mp told
    rfl
  | _ => simp at told

theorem current_of_past (past : s.Past arg) : s.current? ≠ none := by
  obtain ⟨current, found, -⟩ := past
  simp [found]

theorem past_write {chunk : Bytes} (h : Answered s (.write arg chunk) result) :
    (.error (.writeAfterEnd arg) ∈ result.2 ↔ s.Past arg) ∧
      (.error .finished ∈ result.2 ↔ s.current? = none) := by
  cases h with
  | lateWrite past => simp [past, current_of_past past]
  | overWrite ended => simp [ended, Past]
  | wrote some next => simp [some, next]
  | quiet quiet => obtain h | h := quiet <;> cases h

theorem past_end (h : Answered s (.endArg arg) result) :
    (.error (.alreadyEnded arg) ∈ result.2 ↔ s.Past arg) ∧
      (.error .finished ∈ result.2 ↔ s.current? = none) := by
  cases h with
  | lateEnd past => simp [past, current_of_past past]
  | overEnd ended => simp [ended, Past]
  | closed some next => simp [some, next]
  | last some next => simp [some, next]
  | quiet quiet => obtain h | h := quiet <;> cases h

end Answered

/-- What a stream has handed out, and how it answers. -/
structure Lossless (log : List (Action × List ArgEvent)) (events : List ArgEvent) (s : ArgStream) :
    Prop where
  /-- The batches, and the chunks still held behind them, are the arguments opened so far, each
  with the chunks that were accepted for it, in order. -/
  joined : joinAll (batches events ++ [s.held]) = arguments log
  /-- The last argument opened is the one that is open, until the third has ended. -/
  current : (∀ arg, s.current? = some arg → opened log = arg.position + 1) ∧
    (s.current? = none → opened log = 3)
  sizes : ∀ batch ∈ batches events, 1 ≤ batch.length ∧ batch.length ≤ 3
  /-- A last batch is followed by the end, and by nothing else but rejections. -/
  last : ∀ front chunks back, events = front ++ .parts chunks true :: back →
    ∃ k, back = .finish :: List.replicate k (.error .finished)
  finish : ∀ front back, events = front ++ .finish :: back →
    ∃ before chunks, front = before ++ [.parts chunks true]
  /-- A last batch is handed out exactly when the third argument ends. -/
  ends : ∀ a, (∃ chunks, .parts chunks true ∈ (s.step a).2) ↔
    a = .endArg .arg3 ∧ rejected (s.step a).2 = false
  /-- An error is all that comes of an action that is rejected. -/
  rejects : ∀ a e, .error e ∈ (s.step a).2 → s.step a = (s, [.error e])
  /-- A write is rejected if a later argument is open, or none. -/
  writes : ∀ arg chunk, (.error (.writeAfterEnd arg) ∈ (s.write arg chunk).2 ↔ s.Past arg) ∧
    (.error .finished ∈ (s.write arg chunk).2 ↔ s.current? = none)
  /-- So is an end. -/
  closes : ∀ arg, (.error (.alreadyEnded arg) ∈ (s.endArg arg).2 ↔ s.Past arg) ∧
    (.error .finished ∈ (s.endArg arg).2 ↔ s.current? = none)
  /-- A stream that is made to finish hands out nothing any more. -/
  forced : ∀ more, ∀ e ∈ (s.finishAll.run more).2, e = .error .finished

/-- **A stream of arguments loses nothing, changes no order and repeats nothing,** wherever it is
flushed. -/
theorem run_lossless {actions : List Action} (kept : .finishAll ∉ actions) :
    Lossless (empty.history actions) (empty.run actions).2 (empty.run actions).1 := by
  have keeps : Keeps (empty.history actions) (empty.run actions).2 (empty.run actions).1 :=
    keeps_empty.run kept
  refine {
    joined := keeps.joined
    current := keeps.current
    sizes := keeps.sizes
    last := fun front chunks back => keeps.last
    finish := fun front back => keeps.finish
    ends := fun a => (keeps.answered a).ends
    rejects := fun a e => (keeps.answered a).rejects
    writes := fun arg chunk => (keeps.answered (.write arg chunk)).past_write
    closes := fun arg => (keeps.answered (.endArg arg)).past_end
    forced := ?_ }
  intro more e mem
  obtain ⟨k, same⟩ := run_of_finished (finished_finishAll (empty.run actions).1) more
  rw [same] at mem
  exact List.eq_of_mem_replicate mem

/-- Two writes to the second argument with a flush between them, and two that come too late. -/
def scatteredWrites : List Action :=
  [.write .arg2 [1], .flush, .write .arg1 [7], .write .arg2 [2], .endArg .arg3, .write .arg3 [8]]

theorem run_lossless_scatteredWrites : .finishAll ∉ scatteredWrites ∧
    Lossless (empty.history scatteredWrites) (empty.run scatteredWrites).2
      (empty.run scatteredWrites).1 ∧
    batches (empty.run scatteredWrites).2 = [[[], [1]], [[2], []]] ∧
    arguments (empty.history scatteredWrites) = [[], [1, 2], []] := by
  have kept : .finishAll ∉ scatteredWrites := by decide
  exact ⟨kept, run_lossless kept, rfl, rfl⟩

end ArgStream

end CallWire
