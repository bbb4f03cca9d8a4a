import CallWire.Proofs.Streaming.Scripts

/-!
# What a stream of arguments has got accepted

The log of a stream is what was done to it and what it reported. It tells which chunks were accepted
for each argument and how many arguments have been opened, and so what the stream should hand out,
whenever it does.
-/

namespace CallWire

namespace ArgStream

/-- What was done and reported, in order. -/
def history (s : ArgStream) : List Action → List (Action × List ArgEvent)
  | [] => []
  | a :: rest => (a, (s.step a).2) :: history (s.step a).1 rest

/-- Whether an error was reported. -/
def rejected (events : List ArgEvent) : Bool :=
  events.any fun
    | .error _ => true
    | _ => false

/-- What an action got accepted for an argument. -/
def accepted (arg : ArgIndex) : Action × List ArgEvent → Bytes
  | (.write a chunk, events) => if a = arg ∧ rejected events = false then chunk else []
  | _ => []

/-- How many arguments are open at least after an action: a write opens its argument, and an end
the next one. -/
def opens : Action × List ArgEvent → Nat
  | (.write arg _, events) => if rejected events then 1 else arg.position + 1
  | (.endArg arg, events) => if rejected events then 1 else min 3 (arg.position + 2)
  | _ => 1

/-- All that was accepted for an argument. -/
def content (arg : ArgIndex) (log : List (Action × List ArgEvent)) : Bytes :=
  log.flatMap (accepted arg)

/-- How many arguments have been opened. The first is open from the start. -/
def opened (log : List (Action × List ArgEvent)) : Nat := log.foldl (fun n e => max n (opens e)) 1

/-- The arguments that have been opened, each with all that was accepted for it. -/
def arguments (log : List (Action × List ArgEvent)) : List Bytes :=
  (ArgIndex.all.take (opened log)).map (content · log)

variable {log : List (Action × List ArgEvent)} {told : List ArgEvent} {n : Nat} {arg : ArgIndex}

theorem content_concat (arg : ArgIndex) (log : List (Action × List ArgEvent))
    (e : Action × List ArgEvent) : content arg (log ++ [e]) = content arg log ++ accepted arg e := by
  simp [content]

theorem opened_concat (log : List (Action × List ArgEvent)) (e : Action × List ArgEvent) :
    opened (log ++ [e]) = max (opened log) (opens e) := by
  simp [opened]

/-- The arguments before one, and that one. -/
theorem take_all (arg : ArgIndex) :
    ArgIndex.all.take (arg.position + 1) = ArgIndex.all.take arg.position ++ [arg] := by
  cases arg <;> rfl

theorem notMem_take_all (arg : ArgIndex) : arg ∉ ArgIndex.all.take arg.position := by
  cases arg <;> decide

/-- As many arguments have been opened, and nothing was written to the others. -/
structure Opened (log : List (Action × List ArgEvent)) (n : Nat) : Prop where
  count : opened log = n + 1
  later : ∀ arg : ArgIndex, n < arg.position → content arg log = []

namespace Opened

variable {m : Nat}

/-- With the arguments opened by now come those that nothing was written to. -/
theorem arguments_append (h : Opened log n) (more : n ≤ m) (most : m ≤ 2) :
    arguments log ++ List.replicate (m - n) [] =
      (ArgIndex.all.take (m + 1)).map (content · log) := by
  obtain ⟨count, later⟩ := h
  rw [arguments, count]
  obtain rfl | rfl | rfl : n = 0 ∨ n = 1 ∨ n = 2 := by omega
  · obtain rfl | rfl | rfl : m = 0 ∨ m = 1 ∨ m = 2 := by omega
    · rfl
    · simp [ArgIndex.all, later .arg2 (by decide)]
    · simp [ArgIndex.all, later .arg2 (by decide), later .arg3 (by decide)]
  · obtain rfl | rfl : m = 1 ∨ m = 2 := by omega
    · rfl
    · simp [ArgIndex.all, later .arg3 (by decide)]
  · obtain rfl : m = 2 := by omega
    rfl

/-- A write extends the argument that it goes to, and opens those before it. -/
theorem write (h : Opened log n) (next : n ≤ arg.position) (chunk : Bytes) :
    Opened (log ++ [(.write arg chunk, [])]) arg.position ∧
      arguments (log ++ [(.write arg chunk, [])]) =
        extendLast chunk (arguments log ++ List.replicate (arg.position - n) []) := by
  have most : arg.position ≤ 2 := by cases arg <;> decide
  have count : opened (log ++ [(.write arg chunk, [])]) = arg.position + 1 := by
    rw [opened_concat, h.count]
    exact Nat.max_eq_right (Nat.succ_le_succ next)
  have here : content arg (log ++ [(.write arg chunk, [])]) = content arg log ++ chunk := by
    rw [content_concat, accepted, if_pos ⟨rfl, rfl⟩]
  have others {b : ArgIndex} (other : arg ≠ b) :
      content b (log ++ [(.write arg chunk, [])]) = content b log := by
    rw [content_concat, accepted, if_neg (fun h => other h.1), List.append_nil]
  refine ⟨⟨count, ?_⟩, ?_⟩
  · intro b behind
    rw [others (fun same => absurd (same ▸ behind) (Nat.lt_irrefl _))]
    exact h.later b (Nat.lt_of_le_of_lt next behind)
  · rw [h.arguments_append next most, arguments, count, take_all, List.map_append, List.map_append,
      List.map_singleton, List.map_singleton, extendLast_concat, here]
    congr 1
    apply List.map_congr_left
    intro b mem
    exact others (fun same => notMem_take_all arg (same ▸ mem))

/-- The end of an argument opens the next, if there is one, and those before it. -/
theorem endArg (h : Opened log n) (arg : ArgIndex) (kept : rejected told = false) (more : n ≤ m)
    (most : m ≤ 2) (opens : min 3 (arg.position + 2) = m + 1) :
    Opened (log ++ [(.endArg arg, told)]) m ∧
      arguments (log ++ [(.endArg arg, told)]) = arguments log ++ List.replicate (m - n) [] := by
  have count : opened (log ++ [(.endArg arg, told)]) = m + 1 := by
    rw [opened_concat, h.count, ArgStream.opens, kept]
    simp only [Bool.false_eq_true, if_false, opens]
    exact Nat.max_eq_right (Nat.succ_le_succ more)
  have same (b : ArgIndex) : content b (log ++ [(.endArg arg, told)]) = content b log := by
    rw [content_concat]
    exact List.append_nil _
  refine ⟨⟨count, ?_⟩, ?_⟩
  · intro b behind
    rw [same]
    exact h.later b (Nat.lt_of_le_of_lt more behind)
  · rw [h.arguments_append more most, arguments, count]
    exact List.map_congr_left fun b _ => same b

end Opened

/-- An action that gets nothing accepted and opens no argument. -/
structure Idle (e : Action × List ArgEvent) : Prop where
  nothing : ∀ arg, accepted arg e = []
  unopened : opens e = 1

theorem idle_of_rejected (a : Action) (rejects : rejected told = true) : Idle (a, told) := by
  cases a with
  | write arg chunk => exact ⟨fun b => by simp [accepted, rejects], by simp [opens, rejects]⟩
  | endArg arg => exact ⟨fun _ => rfl, by simp [opens, rejects]⟩
  | flush | finishAll => exact ⟨fun _ => rfl, rfl⟩

namespace Idle

variable {e : Action × List ArgEvent}

theorem content_eq (idle : Idle e) (arg : ArgIndex) : content arg (log ++ [e]) = content arg log := by
  rw [content_concat, idle.nothing, List.append_nil]

theorem opened_eq (idle : Idle e) (begun : 1 ≤ opened log) : opened (log ++ [e]) = opened log := by
  rw [opened_concat, idle.unopened, Nat.max_eq_left begun]

theorem arguments_eq (idle : Idle e) (begun : 1 ≤ opened log) :
    arguments (log ++ [e]) = arguments log := by
  rw [arguments, arguments, idle.opened_eq begun]
  exact List.map_congr_left fun arg _ => idle.content_eq arg

theorem opened (idle : Idle e) (h : Opened log n) : Opened (log ++ [e]) n := by
  refine ⟨(idle.opened_eq ?_).trans h.count, fun arg behind => ?_⟩
  · rw [h.count]
    exact Nat.succ_le_succ (Nat.zero_le n)
  · rw [idle.content_eq]
    exact h.later arg behind

end Idle

end ArgStream

end CallWire
