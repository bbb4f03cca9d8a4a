import CallWire.Response.Streaming

/-!
# What calls have got accepted

The history of a streaming response is what was called and answered. It tells which chunks were
accepted for each argument and how many arguments have been opened, and so what the frames of the
response should carry.
-/

namespace CallWire.StreamingResponse

/-- What was called and answered, in order. -/
def history (s : StreamingResponse) : List Action → List (Action × Answer Unit)
  | [] => []
  | a :: rest => (a, (s.step a).1) :: history (s.step a).2 rest

/-- The chunks that a call got accepted for an argument. A call that sends both arguments and is
rejected because the second has ended has written the third all the same. -/
def accepted (arg : ArgIndex) : Action × Answer Unit → List Bytes
  | (.write a chunk, .ok ()) => if a = arg then [chunk] else []
  | (.send arg2 arg3, .ok ()) =>
      match arg with
      | .arg1 => []
      | .arg2 => [arg2]
      | .arg3 => [arg3]
  | (.send _ arg3, .error (.refused (.argStream (.writeAfterEnd .arg2)))) =>
      if arg = .arg3 then [arg3] else []
  | _ => []

/-- How many arguments are open at least after a call: an argument is opened when the one before
it ends, and writing to an argument ends all before it. -/
def opens : Action × Answer Unit → Nat
  | (.setOk _, .ok ()) => 2
  | (.write arg _, .ok ()) => arg.position + 1
  | (.endArg arg, .ok ()) => min 3 (arg.position + 2)
  | (.send _ _, .ok ()) => 3
  | (.send _ _, .error (.refused (.argStream (.writeAfterEnd .arg2)))) => 3
  | _ => 1

/-- All that was accepted for an argument. -/
def content (arg : ArgIndex) (log : List (Action × Answer Unit)) : Bytes :=
  (log.flatMap (accepted arg)).flatten

/-- How many arguments have been opened. The first is open from the start. -/
def opened (log : List (Action × Answer Unit)) : Nat := log.foldl (fun n e => max n (opens e)) 1

/-- The arguments that have been opened; nothing is ever written to the first. -/
def arguments (log : List (Action × Answer Unit)) : List Bytes :=
  [[], content .arg2 log, content .arg3 log].take (opened log)

variable {log : List (Action × Answer Unit)} {n : Nat}

theorem content_concat (arg : ArgIndex) (log : List (Action × Answer Unit))
    (e : Action × Answer Unit) :
    content arg (log ++ [e]) = content arg log ++ (accepted arg e).flatten := by
  simp [content]

theorem opened_concat (log : List (Action × Answer Unit)) (e : Action × Answer Unit) :
    opened (log ++ [e]) = max (opened log) (opens e) := by
  simp [opened]

/-- As many arguments have been opened, and nothing was written to the others. -/
structure Opened (log : List (Action × Answer Unit)) (n : Nat) : Prop where
  count : opened log = n
  second : n ≤ 1 → content .arg2 log = []
  third : n ≤ 2 → content .arg3 log = []

/-- A call that gets nothing accepted and opens no argument. -/
structure Idle (e : Action × Answer Unit) : Prop where
  second : accepted .arg2 e = []
  third : accepted .arg3 e = []
  unopened : opens e = 1

theorem Idle.arguments_eq {e : Action × Answer Unit} (idle : Idle e) (begun : 1 ≤ opened log) :
    arguments (log ++ [e]) = arguments log := by
  simp only [arguments, content_concat, opened_concat, idle.second, idle.third, idle.unopened,
    List.flatten_nil, List.append_nil, Nat.max_eq_left begun]

theorem Idle.opened {e : Action × Answer Unit} (idle : Idle e) (begun : 1 ≤ n)
    (h : Opened log n) : Opened (log ++ [e]) n := by
  refine ⟨?_, ?_, ?_⟩
  · rw [opened_concat, idle.unopened, h.count, Nat.max_eq_left begun]
  · rw [content_concat, idle.second, List.flatten_nil, List.append_nil]
    exact h.second
  · rw [content_concat, idle.third, List.flatten_nil, List.append_nil]
    exact h.third

/-- A call after which `m` arguments are open, when `n` had ended before, and the chunks that carry
what it got accepted: the first goes on with the last argument, the others open the next ones. -/
structure Adds (n m : Nat) (chunks : List Bytes) (e : Action × Answer Unit) : Prop where
  more : n < m
  most : m ≤ 3
  opens : opens e = m
  chunks : chunks = ([[], (accepted .arg2 e).flatten, (accepted .arg3 e).flatten].take m).drop n
  second : n = 2 ∨ m ≤ 1 → accepted .arg2 e = []
  third : m ≤ 2 → accepted .arg3 e = []

namespace Adds

variable {m : Nat} {chunks : List Bytes} {e : Action × Answer Unit}

theorem length (adds : Adds n m chunks e) : chunks.length = m - n := by
  rw [adds.chunks, List.length_drop, List.length_take]
  exact congrArg (· - n) (Nat.min_eq_left adds.most)

theorem filled (adds : Adds n m chunks e) : chunks ≠ [] := by
  have length := adds.length
  have more := adds.more
  apply List.length_pos_iff.mp
  omega

theorem few (adds : Adds n m chunks e) : chunks.length ≤ 3 := by
  have length := adds.length
  have most := adds.most
  omega

/-- The chunks of a call go on with the arguments that were open. -/
theorem carried (adds : Adds n m chunks e) (h : Opened log (n + 1)) :
    arguments (log ++ [e]) = joinBatch (arguments log) chunks ∧ Opened (log ++ [e]) m := by
  obtain ⟨more, most, opens, chunks, earlier, later⟩ := adds
  obtain ⟨count, second, third⟩ := h
  have total : opened (log ++ [e]) = m := by
    rw [opened_concat, count, opens, Nat.max_eq_right more]
  refine ⟨?_, total, ?_, ?_⟩
  · rw [arguments, arguments, total, count, content_concat, content_concat, chunks]
    -- the arguments that are opened now were empty before, so only those that end up open matter
    obtain rfl | rfl | rfl : n = 0 ∨ n = 1 ∨ n = 2 := by omega
    · rw [second (by decide), third (by decide)]
      obtain rfl | rfl | rfl : m = 1 ∨ m = 2 ∨ m = 3 := by omega
      · rfl
      · rfl
      · rfl
    · rw [third (by decide)]
      obtain rfl | rfl : m = 2 ∨ m = 3 := by omega
      · rfl
      · rfl
    · obtain rfl : m = 3 := by omega
      rw [earlier (Or.inl rfl), List.flatten_nil, List.append_nil]
      rfl
  · intro short
    rw [content_concat, earlier (Or.inr short), second (by omega)]
    rfl
  · intro short
    rw [content_concat, later short, third (by omega)]
    rfl

end Adds

/-- A call that only ends arguments opens the next ones, with nothing in them. -/
theorem adds_ends {m : Nat} {e : Action × Answer Unit} (nothing : ∀ arg, accepted arg e = [])
    (opens : opens e = m) (more : n < m) (most : m ≤ 3) :
    Adds n m ([[]] ++ List.replicate (m - 1 - n) []) e := by
  refine ⟨more, most, opens, ?_, fun _ => nothing _, fun _ => nothing _⟩
  have empty : [[], [], []] = List.replicate 3 ([] : Bytes) := rfl
  have first : [([] : Bytes)] = List.replicate 1 [] := rfl
  rw [nothing, nothing, List.flatten_nil, empty, List.take_replicate, List.drop_replicate, first,
    List.replicate_append_replicate, Nat.min_eq_left most]
  congr 1
  omega

theorem adds_write {arg : ArgIndex} (later : arg ≠ .arg1) (next : n ≤ arg.position)
    (chunk : Bytes) : Adds n (arg.position + 1) (List.replicate (arg.position - n) [] ++ [chunk])
      (.write arg chunk, .ok ()) := by
  have more : n < arg.position + 1 := Nat.lt_succ_of_le next
  cases arg with
  | arg1 => exact absurd rfl later
  | arg2 =>
    refine ⟨more, by decide, rfl, ?_, ?_, fun _ => rfl⟩
    · obtain rfl | rfl : n = 0 ∨ n = 1 := Nat.le_one_iff_eq_zero_or_eq_one.mp next
      · simp [accepted, ArgIndex.position]
      · simp [accepted, ArgIndex.position]
    · simp only [ArgIndex.position] at next ⊢
      omega
  | arg3 =>
    refine ⟨more, by decide, rfl, ?_, fun _ => rfl, ?_⟩
    · obtain rfl | rfl | rfl : n = 0 ∨ n = 1 ∨ n = 2 := by
        simp only [ArgIndex.position] at next
        omega
      · simp [accepted, ArgIndex.position]
      · simp [accepted, ArgIndex.position]
      · simp [accepted, ArgIndex.position]
    · intro short
      exact absurd short (by decide)

theorem adds_send (next : n ≤ 1) (arg2 arg3 : Bytes) :
    Adds n 3 (List.replicate (1 - n) [] ++ [arg2, arg3]) (.send arg2 arg3, .ok ()) := by
  refine ⟨by omega, by decide, rfl, ?_, by omega, by omega⟩
  obtain rfl | rfl : n = 0 ∨ n = 1 := Nat.le_one_iff_eq_zero_or_eq_one.mp next
  · simp [accepted]
  · simp [accepted]

/-- A call that sends both arguments when the second has ended still writes the third. -/
theorem adds_send_late (arg2 arg3 : Bytes) :
    Adds 2 3 [arg3]
      (.send arg2 arg3, .error (.refused (.argStream (.writeAfterEnd .arg2)))) := by
  refine ⟨by decide, by decide, rfl, ?_, fun _ => rfl, by omega⟩
  simp [accepted]

end CallWire.StreamingResponse
