import CallWire.Pool.Exchange
import CallWire.Proofs.Lists

/-!
# What happens to pools

A run on pools and handles is told by its events: a pool hands out a handle, a handle is made beside
the pools, a handle is given back. An action that breaks the contract is no event.

* `Happens`, `happens`: all that one action can come to;
* `KeptAt`: what need only be looked at where it happens, pool by pool;
* `run_history`: what holds at first and is kept by everything that can happen holds after a run,
  of its result and its history.
-/

namespace CallWire

namespace Pool

variable {α : Type}

/-- A pool that has not been used yet. -/
inductive New : Pool α → Prop where
  | plain (name : String) (fresh : α) : New (.plain name fresh)
  | resetting (name : String) (fresh : α) (reset : α → α) : New (.resetting name fresh reset)

theorem get_of_empty {p : Pool α} (empty : p.idle = []) :
    p.get = (⟨some p.fresh, true⟩, { p with
      stats := { p.stats with
        outstanding := p.stats.outstanding + 1
        newed := p.stats.newed + 1 } }) := by
  rw [get, empty]

theorem get_of_waiting {p : Pool α} {a : α} {idle : List α} (waits : p.idle = a :: idle) :
    p.get = (⟨some a, true⟩, { p with
      stats := { p.stats with
        outstanding := p.stats.outstanding + 1
        reused := p.stats.reused + 1 }
      idle }) := by
  rw [get, waits]

end Pool

namespace Exchange

variable {α : Type}

/-- Pools that nobody has taken a handle from. -/
def opening (pools : List (Pool α)) : Exchange α := ⟨pools, []⟩

/-- A pool that keeps what comes back, and one that makes it zero. -/
def pair : List (Pool Nat) := [.plain "kept" 0, .resetting "cleared" 0 fun _ => 0]

theorem new_pair : ∀ p ∈ pair, p.New := by
  intro p there
  rcases List.mem_cons.mp there with rfl | there
  · exact .plain _ _
  · rw [List.mem_singleton.mp there]
    exact .resetting _ _ _

/-- What happens in a run. Pools and handles are named by their place. -/
inductive Event (α : Type) where
  /-- A pool hands out a handle on this value, in an instance that has waited there or a new one. -/
  | handedOut (pool : Nat) (waited : Bool) (value : α)
  /-- A handle is made beside the pools. -/
  | made
  /-- A handle on this value is given back to a pool. -/
  | givenBack (pool handle : Nat) (counted : Bool) (value : α)

/-- The pool that an event takes place at. -/
def Event.pool? : Event α → Option Nat
  | handedOut p _ _ | givenBack p _ _ _ => some p
  | made => none

/-- What an action comes to be in the history. -/
def event? (x : Exchange α) : Action α → Option (Event α)
  | .get p => do
      let pool ← x.pools[p]?
      let value ← pool.get.1.value?
      return .handedOut p (!pool.idle.isEmpty) value
  | .make _ => some .made
  | .clone h => x.handles[h]?.map fun _ => .made
  | .set _ _ => none
  | .free p h => do
      let _ ← x.pools[p]?
      let handle ← x.handles[h]?
      let value ← handle.value?
      return .givenBack p h handle.counted value

/-- The pools and handles after an action; one that breaks the contract leaves all as it was. -/
def after (x : Exchange α) (a : Action α) : Exchange α :=
  match x.step (ε := Empty) a with
  | .ok y => y
  | .error _ => x

/-- The events of a run, in order. -/
def history (x : Exchange α) : List (Action α) → List (Event α)
  | [] => []
  | a :: rest => (x.event? a).toList ++ (x.after a).history rest

theorem run_cons (x : Exchange α) (a : Action α) (rest : List (Action α)) :
    x.run (a :: rest) = (x.after a).run rest := by
  rw [run, after]
  cases x.step (ε := Empty) a <;> rfl

/-- What can happen on an action: the pools and handles afterwards, and the event. -/
inductive Happens (x : Exchange α) : Action α → Exchange α → Option (Event α) → Prop where
  | nothing {action : Action α} : Happens x action x none
  | changed {i : Nat} {a b : α} {counted : Bool} (here : x.handles[i]? = some ⟨some a, counted⟩) :
      Happens x (.set i b) { x with handles := x.handles.set i ⟨some b, counted⟩ } none
  | made {a : α} : Happens x (.make a) (x.addHandle ⟨some a, false⟩) (some .made)
  | cloned {i : Nat} {h : Pooled α} (here : x.handles[i]? = some h) :
      Happens x (.clone i) (x.addHandle ⟨h.value?, false⟩) (some .made)
  | built {p : Nat} {pool : Pool α} (here : x.pools[p]? = some pool) (empty : pool.idle = []) :
      Happens x (.get p)
        { pools := x.pools.set p { pool with
            stats := { pool.stats with
              outstanding := pool.stats.outstanding + 1
              newed := pool.stats.newed + 1 } }
          handles := x.handles ++ [⟨some pool.fresh, true⟩] }
        (some (.handedOut p false pool.fresh))
  | recycled {p : Nat} {pool : Pool α} {a : α} {idle : List α} (here : x.pools[p]? = some pool)
      (waits : pool.idle = a :: idle) :
      Happens x (.get p)
        { pools := x.pools.set p { pool with
            stats := { pool.stats with
              outstanding := pool.stats.outstanding + 1
              reused := pool.stats.reused + 1 }
            idle }
          handles := x.handles ++ [⟨some a, true⟩] }
        (some (.handedOut p true a))
  | givenBack {p i : Nat} {pool : Pool α} {a : α} {counted : Bool}
      (here : x.pools[p]? = some pool) (held : x.handles[i]? = some ⟨some a, counted⟩) :
      Happens x (.free p i)
        { pools := x.pools.set p { pool with
            stats := { pool.stats with
              outstanding :=
                if counted then pool.stats.outstanding - 1 else pool.stats.outstanding }
            idle := pool.idle ++ [pool.kept a] }
          handles := x.handles.set i ⟨none, counted⟩ }
        (some (.givenBack p i counted a))

/-- **One action comes to no more than one event.** -/
theorem happens (x : Exchange α) (a : Action α) : Happens x a (x.after a) (x.event? a) := by
  cases a with
  | get p =>
    cases here : x.pools[p]? with
    | none =>
      simp only [after, step, event?, here]
      exact .nothing
    | some pool =>
      cases waits : pool.idle with
      | nil =>
        have built := Happens.built here waits
        simpa [after, step, event?, here, Pool.get_of_empty waits, waits] using built
      | cons a idle =>
        have recycled := Happens.recycled here waits
        simpa [after, step, event?, here, Pool.get_of_waiting waits, waits] using recycled
  | make value => exact .made
  | clone h =>
    cases here : x.handles[h]? with
    | none =>
      simp only [after, step, event?, here]
      exact .nothing
    | some handle =>
      simp only [after, step, event?, here]
      exact .cloned here
  | set h value =>
    cases here : x.handles[h]? with
    | none =>
      simp only [after, step, event?, here]
      exact .nothing
    | some handle =>
      obtain ⟨_ | a, counted⟩ := handle
      · simp only [after, step, event?, here]
        exact .nothing
      · simp only [after, step, event?, here]
        exact .changed here
  | free p h =>
    cases here : x.pools[p]? with
    | none =>
      simp only [after, step, event?, here]
      exact .nothing
    | some pool =>
      cases held : x.handles[h]? with
      | none =>
        simp only [after, step, event?, here, held]
        exact .nothing
      | some handle =>
        obtain ⟨_ | a, counted⟩ := handle
        · simp only [after, step, event?, here, held]
          exact .nothing
        · simp only [after, step, event?, here, held]
          exact .givenBack here held

/-- One pool is replaced by what has become of it. -/
theorem forall_pools_set {Q : Nat → Pool α → Prop} {pools : List (Pool α)} {p : Nat} {next : Pool α}
    (all : ∀ i q, i ≠ p → pools[i]? = some q → Q i q) (here : Q p next) :
    ∀ i q, (pools.set p next)[i]? = some q → Q i q := by
  intro i q found
  by_cases same : i = p
  · subst same
    rw [List.getElem?_set_self'] at found
    obtain ⟨_, -, rfl⟩ := Option.map_eq_some_iff.mp found
    exact here
  · rw [List.getElem?_set_ne (Ne.symm same)] at found
    exact all i q same found

/-- What holds of the pool at a place and of the events stays so, by whatever happens there, and by
what does not happen there. -/
structure KeptAt (Q : List (Event α) → Nat → Pool α → Prop) : Prop where
  elsewhere : ∀ {events i p e}, Q events i p → e.pool? ≠ some i → Q (events ++ [e]) i p
  built : ∀ {events i p}, Q events i p → p.idle = [] →
    Q (events ++ [.handedOut i false p.fresh]) i { p with
      stats := { p.stats with
        outstanding := p.stats.outstanding + 1
        newed := p.stats.newed + 1 } }
  recycled : ∀ {events i p a idle}, Q events i p → p.idle = a :: idle →
    Q (events ++ [.handedOut i true a]) i { p with
      stats := { p.stats with
        outstanding := p.stats.outstanding + 1
        reused := p.stats.reused + 1 }
      idle }
  givenBack : ∀ {events i p a}, Q events i p → ∀ h counted,
    Q (events ++ [.givenBack i h counted a]) i { p with
      stats := { p.stats with
        outstanding := if counted then p.stats.outstanding - 1 else p.stats.outstanding }
      idle := p.idle ++ [p.kept a] }

/-- What is kept at each place is kept of all pools. -/
theorem KeptAt.pools {Q : List (Event α) → Nat → Pool α → Prop} (keptAt : KeptAt Q)
    {x y : Exchange α} {action : Action α} {event? : Option (Event α)} (events : List (Event α))
    (all : ∀ i p, x.pools[i]? = some p → Q events i p) (happens : Happens x action y event?) :
    ∀ i p, y.pools[i]? = some p → Q (events ++ event?.toList) i p := by
  have elsewhere {p i : Nat} {q : Pool α} {e : Event α} (at_p : e.pool? = some p) (other : i ≠ p)
      (there : x.pools[i]? = some q) : Q (events ++ [e]) i q := by
    refine keptAt.elsewhere (all i q there) ?_
    rw [at_p, Ne, Option.some.injEq]
    exact Ne.symm other
  cases happens with
  | nothing | changed =>
    rw [Option.toList_none, List.append_nil]
    exact all
  | made | cloned => exact fun i p here => keptAt.elsewhere (all i p here) nofun
  | built here empty =>
    exact forall_pools_set (fun i q => elsewhere rfl) (keptAt.built (all _ _ here) empty)
  | recycled here waits =>
    exact forall_pools_set (fun i q => elsewhere rfl) (keptAt.recycled (all _ _ here) waits)
  | givenBack here held =>
    exact forall_pools_set (fun i q => elsewhere rfl) (keptAt.givenBack (all _ _ here) _ _)

/-- **What everything that can happen keeps, a run keeps.** -/
theorem run_history {motive : Exchange α → List (Event α) → Prop}
    (keeps : ∀ {x y a events event?}, motive x events → Happens x a y event? →
      motive y (events ++ event?.toList))
    {x : Exchange α} {events : List (Event α)} (kept : motive x events)
    (actions : List (Action α)) :
    motive (x.run actions) (events ++ x.history actions) := by
  induction actions generalizing x events with
  | nil =>
    rw [history, List.append_nil]
    exact kept
  | cons a rest ih =>
    rw [run_cons, history, ← List.append_assoc]
    exact ih (keeps kept (x.happens a))

end Exchange

end CallWire
