import CallWire.Response.Streaming

/-!
# What the argument stream reports to a call

Every call on a streaming response performs a few actions on the argument stream and hands out what
they leave behind. So between calls the stream holds nothing: it is idle, with fewer than three
arguments ended, or it is over.

* `write_ok`, `endArg_ok`, `endArg_last`, `flush_dirty`: single actions, by what the stream holds;
* `run_write`, `run_endArg`, `run_endArg_last`, `run_send`: the actions of a call, which report
  their errors and then no more than one batch.
-/

namespace CallWire

namespace ArgStream

/-- A live stream on which `n` arguments have ended, and the chunks it holds. -/
structure Holds (s : ArgStream) (n : Nat) (chunks : List Bytes) : Prop where
  live : s.finished = false
  ended : s.ended = n
  pending : s.pending = chunks

/-- A stream that holds nothing and on which `n` arguments have ended. -/
def idle (n : Nat) : ArgStream := ⟨n, [], [], false, false⟩

/-- A stream that is finished. -/
def spent : ArgStream := ⟨3, [], [], false, true⟩

theorem holds_idle (n : Nat) : (idle n).Holds n [[]] := ⟨rfl, rfl, rfl⟩

variable {s : ArgStream} {n : Nat} {chunks : List Bytes} {arg : ArgIndex}

theorem closeChunks_same (s : ArgStream) (k : Nat) :
    (s.closeChunks k).finished = s.finished ∧ (s.closeChunks k).ended = s.ended ∧
      (s.closeChunks k).dirty = s.dirty := by
  cases k with
  | zero => exact ⟨rfl, rfl, rfl⟩
  | succ k => exact ⟨rfl, rfl, rfl⟩

theorem Holds.advance (h : s.Holds n chunks) {count : Nat} (next : n ≤ count) :
    (s.advance count).Holds count (chunks ++ List.replicate (count - n) []) := by
  refine ⟨(closeChunks_same s _).1.trans h.live, ?_, ?_⟩
  · show max s.ended count = count
    rw [h.ended, Nat.max_eq_right next]
  · show (s.closeChunks (count - s.ended)).pending = _
    rw [pending_closeChunks, h.pending, h.ended]

theorem write_ok (h : s.Holds n chunks) (next : n ≤ arg.position) (chunk : Bytes) :
    ∃ t, s.write arg chunk = (t, []) ∧ t.dirty = true ∧
      t.Holds arg.position (extendLast chunk (chunks ++ List.replicate (arg.position - n) [])) := by
  have advanced := h.advance next
  have intime : ¬ arg.position < s.ended := by rw [h.ended]; exact Nat.not_lt.mpr next
  refine ⟨{ (s.advance arg.position).append chunk with dirty := true }, ?_, rfl, ?_, ?_, ?_⟩
  · simp [write, h.live, intime]
  · exact advanced.live
  · exact advanced.ended
  · show ((s.advance arg.position).append chunk).pending = _
    rw [pending_append, advanced.pending]

theorem write_late (live : s.finished = false) (late : arg.position < s.ended) (chunk : Bytes) :
    s.write arg chunk = (s, [.error (.writeAfterEnd arg)]) := by
  simp [write, live, late]

theorem endArg_ok (h : s.Holds n chunks) (next : n ≤ arg.position) (more : arg.position < 2) :
    ∃ t, s.endArg arg = (t, []) ∧ t.dirty = true ∧
      t.Holds (arg.position + 1) (chunks ++ List.replicate (arg.position + 1 - n) []) := by
  have advanced := h.advance next
  have intime : ¬ arg.position < s.ended := by rw [h.ended]; exact Nat.not_lt.mpr next
  have short : (s.advance arg.position).ended + 1 < ArgIndex.all.length := by
    rw [advanced.ended]
    exact Nat.succ_lt_succ more
  refine ⟨{ (s.advance arg.position).closeChunks 1 with
    ended := (s.advance arg.position).ended + 1, dirty := true }, ?_, rfl, ?_, ?_, ?_⟩
  · simp only [endArg, h.live, Bool.false_eq_true, if_false, if_neg intime, if_pos short]
  · exact (closeChunks_same _ 1).1.trans advanced.live
  · show (s.advance arg.position).ended + 1 = _
    rw [advanced.ended]
  · show ((s.advance arg.position).closeChunks 1).pending = _
    rw [pending_closeChunks, advanced.pending, List.append_assoc, List.replicate_append_replicate,
      Nat.succ_sub next]

theorem endArg_late (live : s.finished = false) (late : arg.position < s.ended) :
    s.endArg arg = (s, [.error (.alreadyEnded arg)]) := by
  simp [endArg, live, late]

theorem endArg_last (h : s.Holds n chunks) (next : n ≤ 2) :
    s.endArg .arg3 = (spent, [.parts (chunks ++ List.replicate (2 - n) []) true, .finish]) := by
  have advanced := h.advance next
  have intime : ¬ ArgIndex.arg3.position < s.ended := by rw [h.ended]; exact Nat.not_lt.mpr next
  have held : (s.advance ArgIndex.arg3.position).pending = _ := advanced.pending
  have ended : (s.advance ArgIndex.arg3.position).ended = 2 := advanced.ended
  simp only [endArg, h.live, Bool.false_eq_true, if_false, if_neg intime, takeBatch]
  rw [if_neg (by rw [ended]; decide), ended]
  show (_, [ArgEvent.parts (s.advance ArgIndex.arg3.position).pending true, .finish]) = _
  rw [held]
  rfl

theorem flush_dirty (h : s.Holds n chunks) (dirty : s.dirty = true) :
    s.flush = (idle n, [.parts chunks false]) := by
  have held := h.pending
  simp [flush, dirty, h.live, takeBatch, held, h.ended, idle]

theorem flush_clean (clean : s.dirty = false) : s.flush = (s, []) := by
  simp [flush, clean]

theorem extendLast_concat (bs : Bytes) (front : List Bytes) (last : Bytes) :
    extendLast bs (front ++ [last]) = front ++ [last ++ bs] := by
  induction front with
  | nil => rfl
  | cons first front ih =>
    cases front with
    | nil => rfl
    | cons second front => exact congrArg (first :: ·) ih

/-- Chunks that are empty up to the last, which grows. -/
theorem extendLast_replicate (bs : Bytes) (k : Nat) :
    extendLast bs ([[]] ++ List.replicate k []) = List.replicate k [] ++ [bs] := by
  have turned : [([] : Bytes)] ++ List.replicate k [] = List.replicate k [] ++ [[]] :=
    List.replicate_succ.symm.trans List.replicate_succ'
  rw [turned, extendLast_concat, List.nil_append]

/-- A write hands out what it brought, behind the ends of the arguments before. -/
theorem run_write (next : n ≤ arg.position) (chunk : Bytes) :
    (idle n).run [.write arg chunk, .flush] =
      (idle arg.position, [.parts (List.replicate (arg.position - n) [] ++ [chunk]) false]) := by
  obtain ⟨t, wrote, dirty, held⟩ := write_ok (holds_idle n) next chunk
  rw [extendLast_replicate] at held
  simp only [run, step, wrote, flush_dirty held dirty, List.nil_append, List.append_nil]

theorem run_write_late (late : arg.position < n) (chunk : Bytes) :
    (idle n).run [.write arg chunk, .flush] = (idle n, [.error (.writeAfterEnd arg)]) := by
  simp only [run, step, write_late (s := idle n) rfl late, flush_clean (s := idle n) rfl,
    List.append_nil]

/-- The end of an argument hands out the ends of the arguments before as well. -/
theorem run_endArg (next : n ≤ arg.position) (more : arg.position < 2) :
    (idle n).run [.endArg arg, .flush] = (idle (arg.position + 1),
      [.parts ([[]] ++ List.replicate (arg.position + 1 - n) []) false]) := by
  obtain ⟨t, closed, dirty, held⟩ := endArg_ok (holds_idle n) next more
  simp only [run, step, closed, flush_dirty held dirty, List.nil_append, List.append_nil]

theorem run_endArg_late (late : arg.position < n) :
    (idle n).run [.endArg arg, .flush] = (idle n, [.error (.alreadyEnded arg)]) := by
  simp only [run, step, endArg_late (s := idle n) rfl late, flush_clean (s := idle n) rfl,
    List.append_nil]

theorem run_endArg_last (next : n ≤ 2) :
    (idle n).run [.endArg .arg3, .flush] =
      (spent, [.parts ([[]] ++ List.replicate (2 - n) []) true, .finish]) := by
  simp only [run, step, endArg_last (holds_idle n) next, flush_clean (s := spent) rfl,
    List.append_nil]

/-- Writing and ending both arguments at once hands out a single batch. -/
theorem run_send (next : n ≤ 1) (arg2 arg3 : Bytes) :
    (idle n).run [.write .arg2 arg2, .endArg .arg2, .write .arg3 arg3, .endArg .arg3] =
      (spent, [.parts (List.replicate (1 - n) [] ++ [arg2, arg3]) true, .finish]) := by
  have intime : n ≤ ArgIndex.arg2.position := next
  obtain ⟨s, wrote, -, held⟩ := write_ok (holds_idle n) intime arg2
  rw [extendLast_replicate] at held
  obtain ⟨t, closed, -, held⟩ := endArg_ok held (Nat.le_refl ArgIndex.arg2.position) (by decide)
  obtain ⟨u, wrote3, -, held⟩ := write_ok held (Nat.le_refl ArgIndex.arg3.position) arg3
  have last := endArg_last held (Nat.le_refl _)
  simp only [run, step, wrote, closed, wrote3, last, List.nil_append, List.append_nil]
  have opened : List.replicate (ArgIndex.arg2.position + 1 - ArgIndex.arg2.position) ([] : Bytes) =
      [[]] := rfl
  have unopened : List.replicate (ArgIndex.arg3.position - (ArgIndex.arg2.position + 1)) ([] : Bytes) =
      [] := rfl
  have same : List.replicate (2 - ArgIndex.arg3.position) ([] : Bytes) = [] := rfl
  rw [opened, unopened, same, List.append_nil, List.append_nil, extendLast_concat, List.append_assoc]
  rfl

/-- If the second argument has ended, the third is still written and ended. -/
theorem run_send_late (arg2 arg3 : Bytes) :
    (idle 2).run [.write .arg2 arg2, .endArg .arg2, .write .arg3 arg3, .endArg .arg3] =
      (spent, [.error (.writeAfterEnd .arg2), .error (.alreadyEnded .arg2),
        .parts [arg3] true, .finish]) := by
  obtain ⟨u, wrote, -, held⟩ := write_ok (holds_idle 2) (Nat.le_refl ArgIndex.arg3.position) arg3
  rw [extendLast_replicate] at held
  have last := endArg_last held (Nat.le_refl _)
  have late : ArgIndex.arg2.position < (idle 2).ended := by decide
  simp only [run, step, write_late (s := idle 2) rfl late, endArg_late (s := idle 2) rfl late,
    wrote, last, List.append_nil]
  rfl

/-- What a stream can be between two calls. -/
def Resting (s : ArgStream) : Prop := (∃ n, n < 3 ∧ s = idle n) ∨ s = spent

theorem finishAll_of_resting (resting : s.Resting) : s.finishAll = spent := by
  rcases resting with ⟨n, -, rfl⟩ | rfl
  · rfl
  · rfl

/-- The actions that a call performs. -/
inductive Script : List Action → Prop where
  | write (arg : ArgIndex) (chunk : Bytes) : Script [.write arg chunk, .flush]
  | endArg (arg : ArgIndex) : Script [.endArg arg, .flush]
  | send (arg2 arg3 : Bytes) :
      Script [.write .arg2 arg2, .endArg .arg2, .write .arg3 arg3, .endArg .arg3]

/-- Errors, and no more than one batch behind them. -/
inductive Reported (s : ArgStream) : ArgStream × List ArgEvent → Prop where
  | rejected (errors : List ArgStreamError) : Reported s (s, errors.map .error)
  | batch {n : Nat} (live : n < 3) (running : s.finished = false) (chunks : List Bytes) :
      Reported s (idle n, [.parts chunks false])
  | last (running : s.finished = false) (errors : List ArgStreamError) (chunks : List Bytes) :
      Reported s (spent, errors.map .error ++ [.parts chunks true, .finish])

theorem reported_spent {actions : List Action} (script : Script actions) :
    Reported spent (spent.run actions) := by
  cases script with
  | write arg chunk => exact .rejected [.finished]
  | endArg arg => exact .rejected [.finished]
  | send arg2 arg3 => exact .rejected [.finished, .finished, .finished, .finished]

theorem reported_idle (live : n < 3) {actions : List Action} (script : Script actions) :
    Reported (idle n) ((idle n).run actions) := by
  cases script with
  | write arg chunk =>
    by_cases late : arg.position < n
    · rw [run_write_late late]
      exact .rejected [_]
    · rw [run_write (Nat.not_lt.mp late)]
      exact .batch (by cases arg <;> decide) rfl _
  | endArg arg =>
    by_cases late : arg.position < n
    · rw [run_endArg_late late]
      exact .rejected [_]
    · have next := Nat.not_lt.mp late
      cases arg with
      | arg1 =>
        rw [run_endArg next (by decide)]
        exact .batch (by decide) rfl _
      | arg2 =>
        rw [run_endArg next (by decide)]
        exact .batch (by decide) rfl _
      | arg3 =>
        rw [run_endArg_last next]
        exact .last rfl [] _
  | send arg2 arg3 =>
    by_cases next : n ≤ 1
    · rw [run_send next]
      exact .last rfl [] _
    · have two : n = 2 := by omega
      rw [two, run_send_late]
      exact .last rfl [.writeAfterEnd .arg2, .alreadyEnded .arg2] _

theorem reported (resting : s.Resting) {actions : List Action} (script : Script actions) :
    Reported s (s.run actions) := by
  rcases resting with ⟨n, live, rfl⟩ | rfl
  · exact reported_idle live script
  · exact reported_spent script

end ArgStream

end CallWire
