import CallWire.Proofs.Pool.Histories

/-!
# Pools do not look at what they hold

Which instance a pool hands out, and when it needs a new one, depends on no value: where all values
are replaced by others, everything goes on as before with the others in their place.

* `after_images`: an action on the images of all values;
* `run_images`: a run, and what it tells.
-/

namespace CallWire

variable {α β : Type}

def Pooled.map (f : α → β) (h : Pooled α) : Pooled β := ⟨h.value?.map f, h.counted⟩

/-- The pool `q` holds the images of what `p` holds, and makes of an image the image of what `p`
makes. -/
structure Pool.Images (f : α → β) (p : Pool α) (q : Pool β) : Prop where
  stats : q.stats = p.stats
  fresh : q.fresh = f p.fresh
  kept : ∀ a, q.kept (f a) = f (p.kept a)
  idle : q.idle = p.idle.map f

namespace Pool.Images

variable {f : α → β} {p : Pool α} {q : Pool β}

theorem get (images : Images f p q) :
    q.get.1 = p.get.1.map f ∧ Images f p.get.2 q.get.2 ∧ q.idle.isEmpty = p.idle.isEmpty := by
  obtain ⟨stats, fresh, kept, idle⟩ := images
  cases waits : p.idle with
  | nil =>
    have empty : q.idle = [] := by rw [idle, waits, List.map_nil]
    rw [get_of_empty waits, get_of_empty empty, stats, fresh]
    exact ⟨rfl, ⟨rfl, rfl, kept, idle⟩, by rw [empty]; rfl⟩
  | cons a rest =>
    have others : q.idle = f a :: rest.map f := by rw [idle, waits, List.map_cons]
    rw [get_of_waiting waits, get_of_waiting others, stats]
    exact ⟨rfl, ⟨rfl, fresh, kept, rfl⟩, by rw [others]; rfl⟩

/-- An instance that comes back joins the others with its image. -/
theorem give (images : Images f p q) (a : α) {counted : Bool} :
    Images f
      { p with
        stats := { p.stats with
          outstanding := if counted then p.stats.outstanding - 1 else p.stats.outstanding }
        idle := p.idle ++ [p.kept a] }
      { q with
        stats := { q.stats with
          outstanding := if counted then q.stats.outstanding - 1 else q.stats.outstanding }
        idle := q.idle ++ [q.kept (f a)] } := by
  obtain ⟨stats, fresh, kept, idle⟩ := images
  refine ⟨by rw [stats], fresh, kept, ?_⟩
  rw [idle, kept, List.map_append, List.map_singleton]

end Pool.Images

namespace Exchange

/-- The same action, with the image of the value in it. -/
def Action.map (f : α → β) : Action α → Action β
  | .get p => .get p
  | .make a => .make (f a)
  | .clone h => .clone h
  | .set h a => .set h (f a)
  | .free p h => .free p h

def Event.map (f : α → β) : Event α → Event β
  | .handedOut p waited a => .handedOut p waited (f a)
  | .made => .made
  | .givenBack p h counted a => .givenBack p h counted (f a)

/-- All pools and handles hold the images of what they held. -/
structure Images (f : α → β) (x : Exchange α) (y : Exchange β) : Prop where
  pools : ∀ i : Nat, Option.Rel (Pool.Images f) x.pools[i]? y.pools[i]?
  handles : y.handles = x.handles.map (Pooled.map f)

variable {f : α → β} {x : Exchange α} {y : Exchange β}

namespace Images

theorem set_pool (images : Images f x y) {i : Nat} {p : Pool α} {q : Pool β}
    (image : Pool.Images f p q) (j : Nat) :
    Option.Rel (Pool.Images f) (x.pools.set i p)[j]? (y.pools.set i q)[j]? := by
  have before := images.pools j
  by_cases same : i = j
  · subst same
    rw [List.getElem?_set_self', List.getElem?_set_self']
    generalize x.pools[i]? = pool?, y.pools[i]? = image? at before
    cases before with
    | none => exact .none
    | some _ => exact .some image
  · rwa [List.getElem?_set_ne same, List.getElem?_set_ne same]

theorem getElem?_handles (images : Images f x y) (h : Nat) :
    y.handles[h]? = x.handles[h]?.map (Pooled.map f) := by
  rw [images.handles, List.getElem?_map]

theorem addHandle (images : Images f x y) (h : Pooled α) :
    Images f (x.addHandle h) (y.addHandle (h.map f)) :=
  ⟨images.pools, by rw [Exchange.addHandle, Exchange.addHandle, images.handles, List.map_append,
    List.map_singleton]⟩

theorem set_handle (images : Images f x y) (i : Nat) (h : Pooled α) :
    Images f { x with handles := x.handles.set i h }
      { y with handles := y.handles.set i (h.map f) } :=
  ⟨images.pools, by rw [images.handles, List.map_set]⟩

end Images

/-- **What an action does and tells does not depend on values.** -/
theorem after_images (images : Images f x y) (a : Action α) :
    Images f (x.after a) (y.after (a.map f)) ∧
      y.event? (a.map f) = (x.event? a).map (Event.map f) := by
  cases a with
  | get p =>
    have pool := images.pools p
    generalize here : x.pools[p]? = pool?, there : y.pools[p]? = image? at pool
    cases pool with
    | none => simpa [after, step, event?, Action.map, here, there] using images
    | @some pool image same =>
      obtain ⟨handle, next, waiting⟩ := same.get
      simp only [after, step, event?, Action.map, here, there, handle]
      refine ⟨⟨images.set_pool next, ?_⟩, ?_⟩
      · rw [images.handles, List.map_append, List.map_singleton]
      · cases taken : pool.get.1.value? <;>
          simp [Pooled.map, Event.map, handle, waiting, taken]
  | make a => exact ⟨images.addHandle ⟨some a, false⟩, rfl⟩
  | clone h =>
    cases here : x.handles[h]? with
    | none =>
      have there : y.handles[h]? = none := by rw [images.getElem?_handles, here, Option.map_none]
      simpa [after, step, event?, Action.map, here, there] using images
    | some handle =>
      have there : y.handles[h]? = some (handle.map f) := by
        rw [images.getElem?_handles, here, Option.map_some]
      simp only [after, step, event?, Action.map, here, there]
      exact ⟨images.addHandle handle.clone, rfl⟩
  | set h a =>
    cases here : x.handles[h]? with
    | none =>
      have there : y.handles[h]? = none := by rw [images.getElem?_handles, here, Option.map_none]
      simpa [after, step, event?, Action.map, here, there] using images
    | some handle =>
      have there : y.handles[h]? = some (handle.map f) := by
        rw [images.getElem?_handles, here, Option.map_some]
      obtain ⟨_ | b, counted⟩ := handle
      · simp only [after, step, event?, Action.map, here, there]
        exact ⟨images, rfl⟩
      · simp only [after, step, event?, Action.map, here, there]
        exact ⟨images.set_handle h ⟨some a, counted⟩, rfl⟩
  | free p h =>
    have pool := images.pools p
    generalize here : x.pools[p]? = pool?, there : y.pools[p]? = image? at pool
    cases pool with
    | none => simpa [after, step, event?, Action.map, here, there] using images
    | @some pool image same =>
      have handle := images.getElem?_handles h
      cases held : x.handles[h]? with
      | none =>
        rw [held, Option.map_none] at handle
        simpa [after, step, event?, Action.map, here, there, held, handle] using images
      | some k =>
        rw [held, Option.map_some] at handle
        obtain ⟨_ | a, counted⟩ := k
        · simp only [after, step, event?, Action.map, here, there, held, handle]
          exact ⟨images, rfl⟩
        · simp only [after, step, event?, Action.map, here, there, held, handle]
          have emptied := (images.set_handle h ⟨none, counted⟩).handles
          exact ⟨⟨images.set_pool (same.give a), emptied⟩, rfl⟩

theorem run_images (images : Images f x y) (actions : List (Action α)) :
    Images f (x.run actions) (y.run (actions.map (Action.map f))) ∧
      y.history (actions.map (Action.map f)) = (x.history actions).map (Event.map f) := by
  induction actions generalizing x y with
  | nil => exact ⟨images, rfl⟩
  | cons a rest ih =>
    obtain ⟨after, event⟩ := after_images images a
    obtain ⟨run, history⟩ := ih after
    rw [List.map_cons, run_cons, run_cons, Exchange.history, Exchange.history, history, event,
      List.map_append, Option.toList_map]
    exact ⟨run, rfl⟩

end Exchange

end CallWire
