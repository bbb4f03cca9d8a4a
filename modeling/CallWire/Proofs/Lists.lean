import Mathlib.Algebra.GroupWithZero.Nat

/-!
# Lists by their elements

Every list but the empty one is a list and a last element behind it. What stands before an element
stands before the last one as well.

What a list adds up to is what one of its elements adds and what the others do, which replacing or
erasing the element leaves as it is (`exists_sum_others`, `exists_countP_others`).
-/

namespace CallWire

variable {α : Type}

theorem exists_concat {l : List α} (filled : l ≠ []) : ∃ front last, l = front ++ [last] :=
  ⟨l.dropLast, l.getLast filled, (List.dropLast_concat_getLast filled).symm⟩

/-- What comes before an element comes before the last one. -/
theorem prefix_of_concat {front back before : List α} {a last : α}
    (h : front ++ a :: back = before ++ [last]) : front <+: before := by
  have all := congrArg List.dropLast h
  rw [List.dropLast_concat, List.dropLast_append_of_ne_nil (by simp)] at all
  exact ⟨(a :: back).dropLast, all⟩

/-- What is not before the last element has nothing behind it. -/
theorem eq_nil_of_concat {front back before : List α} {a last : α}
    (h : front ++ a :: back = before ++ [last]) (outside : a ∉ before) :
    back = [] ∧ front = before ∧ a = last := by
  by_cases empty : back = []
  · subst empty
    obtain ⟨same, last⟩ := List.append_inj' h rfl
    exact ⟨rfl, same, List.singleton_inj.mp last⟩
  · obtain ⟨more, g, rfl⟩ := exists_concat empty
    have same : (front ++ a :: more) ++ [g] = before ++ [last] := by simpa using h
    obtain ⟨rfl, -⟩ := List.append_inj' same rfl
    exact absurd (by simp) outside

theorem exists_sum_others {l : List α} {i : Nat} {a : α} (here : l[i]? = some a) (f : α → Nat) :
    ∃ others, (l.map f).sum = others + f a ∧ (∀ b, ((l.set i b).map f).sum = others + f b) ∧
      ((l.eraseIdx i).map f).sum = others := by
  induction l generalizing i with
  | nil => cases here
  | cons x rest ih =>
    cases i with
    | zero =>
      cases here
      refine ⟨(rest.map f).sum, ?_, fun b => ?_, rfl⟩ <;> simp [Nat.add_comm]
    | succ i =>
      obtain ⟨others, all, put, erased⟩ := ih here
      refine ⟨f x + others, ?_, fun b => ?_, ?_⟩
      · simp [all, Nat.add_assoc]
      · rw [List.set_cons_succ, List.map_cons, List.sum_cons, put, Nat.add_assoc]
      · simp [erased]

theorem exists_countP_others {l : List α} {i : Nat} {a : α} (here : l[i]? = some a)
    (p : α → Bool) :
    ∃ others, l.countP p = others + (if p a then 1 else 0) ∧
      ∀ b, (l.set i b).countP p = others + (if p b then 1 else 0) := by
  have count (m : List α) : m.countP p = (m.map fun x => if p x then 1 else 0).sum := by
    induction m with
    | nil => rfl
    | cons x rest ih => rw [List.countP_cons, ih, List.map_cons, List.sum_cons, Nat.add_comm]
  obtain ⟨others, all, put, -⟩ := exists_sum_others here fun x => if p x then 1 else 0
  exact ⟨others, (count l).trans all, fun b => (count _).trans (put b)⟩

/-- An element that counts as much as the one it replaces changes nothing. -/
theorem map_set_of_same {β : Type} {l : List α} {i : Nat} {a b : α} (here : l[i]? = some a)
    {f : α → β} (same : f b = f a) : (l.set i b).map f = l.map f := by
  have there : (l.map f)[i]? = some (f b) := by
    rw [List.getElem?_map, here, Option.map_some, same]
  obtain ⟨inside, value⟩ := List.getElem?_eq_some_iff.mp there
  rw [List.map_set, ← value]
  exact List.set_getElem_self inside

theorem zip_set {β : Type} {l : List α} {m : List β} {i : Nat} {b : β} (here : m[i]? = some b)
    (a : α) : (l.set i a).zip m = (l.zip m).set i (a, b) := by
  induction l generalizing m i with
  | nil => rfl
  | cons x rest ih =>
    cases m with
    | nil => cases here
    | cons y m =>
      cases i with
      | zero =>
        cases here
        rfl
      | succ i => exact congrArg ((x, y) :: ·) (ih here)

end CallWire
