import CallWire.Arguments
import CallWire.Frame
import CallWire.Proofs.Lists

/-!
# Putting batches of chunks together

Joining batches is associative, and the empty batch changes nothing. So batches can be joined in
any grouping: those of one message among themselves, before those of the next (`reassemble_append`).
-/

namespace CallWire

/-- The chunks of arguments that the frame carries for a response. -/
def Frame.chunks (f : Frame) : List Bytes :=
  match f.body? with
  | some (.callResponse b) => b.args
  | some (.callResponseCont b) => b.args
  | _ => []

theorem joinBatch_nil (batch : List Bytes) : joinBatch batch [] = batch := by
  induction batch with
  | nil => rfl
  | cons chunk rest ih =>
    cases rest with
    | nil => rfl
    | cons second rest => exact congrArg (chunk :: ·) ih

/-- The last chunk of a batch goes on with the first one behind it. -/
theorem joinBatch_concat (front : List Bytes) (chunk arg : Bytes) (args : List Bytes) :
    joinBatch (front ++ [chunk]) (arg :: args) = front ++ (chunk ++ arg) :: args := by
  induction front with
  | nil => rfl
  | cons first front ih =>
    cases front with
    | nil => rfl
    | cons second front => exact congrArg (first :: ·) ih

/-- A batch that goes on with nothing opens the next arguments. -/
theorem joinBatch_empty_chunk {batch : List Bytes} (filled : batch ≠ []) (args : List Bytes) :
    joinBatch batch ([] :: args) = batch ++ args := by
  obtain ⟨front, chunk, rfl⟩ := exists_concat filled
  rw [joinBatch_concat, List.append_nil, List.append_assoc, List.singleton_append]

theorem joinBatch_append {batch : List Bytes} (filled : batch ≠ []) (front args : List Bytes) :
    joinBatch (front ++ batch) args = front ++ joinBatch batch args := by
  obtain ⟨first, chunk, rfl⟩ := exists_concat filled
  cases args with
  | nil => simp only [joinBatch_nil]
  | cons arg args => rw [← List.append_assoc, joinBatch_concat, joinBatch_concat, List.append_assoc]

theorem joinBatch_append_right (front : List Bytes) {args : List Bytes} (filled : args ≠ [])
    (more : List Bytes) : joinBatch front (args ++ more) = joinBatch front args ++ more := by
  by_cases empty : front = []
  · subst empty
    rfl
  · obtain ⟨first, chunk, rfl⟩ := exists_concat empty
    cases args with
    | nil => exact absurd rfl filled
    | cons arg args => simp [joinBatch_concat]

theorem joinBatch_assoc (a b c : List Bytes) :
    joinBatch (joinBatch a b) c = joinBatch a (joinBatch b c) := by
  by_cases empty : a = []
  · subst empty
    rfl
  · obtain ⟨front, chunk, rfl⟩ := exists_concat empty
    cases b with
    | nil => rw [joinBatch_nil]; rfl
    | cons arg rest =>
      rw [joinBatch_concat]
      cases rest with
      | nil =>
        cases c with
        | nil => simp only [joinBatch_nil, joinBatch_concat]
        | cons next args =>
          rw [joinBatch_concat]
          show _ = joinBatch (front ++ [chunk]) ((arg ++ next) :: args)
          rw [joinBatch_concat, List.append_assoc]
      | cons second rest =>
        show joinBatch (front ++ ((chunk ++ arg) :: second :: rest)) c =
          joinBatch (front ++ [chunk]) (arg :: joinBatch (second :: rest) c)
        rw [joinBatch_concat, joinBatch_append (by simp)]
        rfl

/-- The batches joined among themselves. -/
def joinAll (batches : List (List Bytes)) : List Bytes := batches.foldr joinBatch []

theorem foldr_joinBatch (batches : List (List Bytes)) (args : List Bytes) :
    batches.foldr joinBatch args = joinBatch (joinAll batches) args := by
  induction batches with
  | nil => rfl
  | cons batch rest ih => rw [List.foldr_cons, ih, ← joinBatch_assoc]; rfl

theorem joinAll_append (front back : List (List Bytes)) :
    joinAll (front ++ back) = joinBatch (joinAll front) (joinAll back) := by
  rw [joinAll, List.foldr_append, foldr_joinBatch]
  rfl

theorem joinAll_singleton (batch : List Bytes) : joinAll [batch] = batch := joinBatch_nil batch

/-- **Batches are reassembled group by group.** -/
theorem reassemble_append (front back : List (List Bytes)) :
    reassemble (front ++ back) = joinBatch (joinAll front) (reassemble back) := by
  rw [reassemble, List.foldr_append, foldr_joinBatch]
  rfl

theorem reassemble_eq (batches : List (List Bytes)) :
    reassemble batches = joinBatch (joinAll batches) [[]] := foldr_joinBatch batches [[]]

/-- The chunks of a group of batches go on with the arguments that came before. -/
theorem reassemble_append_joined (front : List (List Bytes)) {back : List (List Bytes)}
    (filled : joinAll back ≠ []) :
    reassemble (front ++ back) = joinBatch (reassemble front) (joinAll back) := by
  have neutral : joinBatch [[]] (joinAll back) = joinAll back := by
    obtain ⟨chunk, rest, same⟩ := List.exists_cons_of_ne_nil filled
    rw [same]
    rfl
  have closed : reassemble back = joinAll back := by
    rw [reassemble_eq, joinBatch_empty_chunk filled, List.append_nil]
  rw [reassemble_append, closed, reassemble_eq, joinBatch_assoc, neutral]

end CallWire
