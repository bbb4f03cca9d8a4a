import CallWire.Proofs.Pool.Images

/-!
# Instances are recycled in order

A pool hands out again what came back first, and of what came back it keeps just what it was built
to keep (`InOrder`, `inOrder_keptAt`). Which instance it is that comes again shows once all of them
are numbered (`Instance`, `runNumbered`): numbers change nothing else (`numbered_images`), and no
number is ever in two places (`places_kept`).
-/

namespace CallWire

/-- An instance, which can be told from others whatever it holds. -/
structure Instance (α : Type) where
  number : Nat
  value : α

variable {α : Type}

/-- The same instance holds something else. -/
def Instance.change (f : α → α) (i : Instance α) : Instance α := { i with value := f i.value }

namespace Pool

/-- A pool of numbered instances. -/
def numbered (p : Pool α) : Pool (Instance α) :=
  { stats := p.stats, fresh := ⟨0, p.fresh⟩, reset? := p.reset?.map Instance.change, idle := [] }

theorem kept_numbered (p : Pool α) (i : Instance α) : p.numbered.kept i = i.change p.kept := by
  cases reset : p.reset? <;> simp [kept, numbered, reset, Instance.change]

theorem New.images {p : Pool α} (new : p.New) : Images Instance.value p.numbered p := by
  refine ⟨rfl, rfl, fun i => ?_, ?_⟩
  · rw [kept_numbered, Instance.change]
  · cases new <;> rfl

end Pool

namespace Exchange

namespace Event

/-- What the pool at place `i` hands out again. -/
def again? (i : Nat) : Event α → Option α
  | handedOut p true a => if p = i then some a else none
  | handedOut _ false _ | made | givenBack _ _ _ _ => none

/-- What comes back to the pool at place `i`. -/
def back? (i : Nat) : Event α → Option α
  | givenBack p _ _ a => if p = i then some a else none
  | handedOut _ _ _ | made => none

end Event

/-- What the pool at place `i` has handed out again, in order. -/
def recycled (i : Nat) (events : List (Event α)) : List α := events.filterMap (Event.again? i)

/-- What has come back to the pool at place `i`, in order. -/
def returned (i : Nat) (events : List (Event α)) : List α := events.filterMap (Event.back? i)

/-- What came back to the pool at place `i` comes again in order, made to what the pool keeps. -/
structure InOrder (keeps : α → α) (events : List (Event α)) (i : Nat) (p : Pool α) : Prop where
  kept : ∀ a, p.kept a = keeps a
  queue : recycled i events ++ p.idle = (returned i events).map keeps

variable {x y : Exchange α} {action : Action α} {events : List (Event α)}
  {event? : Option (Event α)} {i : Nat} {pool : Pool α}

theorem recycled_append (i : Nat) (events : List (Event α)) (e : Event α) :
    recycled i (events ++ [e]) = recycled i events ++ (e.again? i).toList := by
  rw [recycled, List.filterMap_append, ← recycled]
  cases again : e.again? i <;> simp [again]

theorem returned_append (i : Nat) (events : List (Event α)) (e : Event α) :
    returned i (events ++ [e]) = returned i events ++ (e.back? i).toList := by
  rw [returned, List.filterMap_append, ← returned]
  cases back : e.back? i <;> simp [back]

theorem InOrder.elsewhere {keeps : α → α} (inOrder : InOrder keeps events i pool) {e : Event α}
    (other : e.pool? ≠ some i) : InOrder keeps (events ++ [e]) i pool := by
  have silent : e.again? i = none ∧ e.back? i = none := by
    cases e with
    | handedOut p waited a => cases waited <;> simp_all [Event.pool?, Event.again?, Event.back?]
    | made => exact ⟨rfl, rfl⟩
    | givenBack p h counted a => simp_all [Event.pool?, Event.again?, Event.back?]
  refine ⟨inOrder.kept, ?_⟩
  rw [recycled_append, returned_append, silent.1, silent.2, Option.toList_none, List.append_nil,
    List.append_nil, inOrder.queue]

/-- **What comes back to a pool goes to the end of its queue,** and what is handed out again is
taken from the front. -/
theorem inOrder_keptAt (keeps : Nat → α → α) :
    KeptAt fun events i p => InOrder (keeps i) events i p where
  elsewhere inOrder other := inOrder.elsewhere other
  built inOrder _ := by
    obtain ⟨kept, queue⟩ := inOrder
    refine ⟨kept, ?_⟩
    rw [recycled_append, returned_append, Event.again?, Event.back?, Option.toList_none,
      List.append_nil, List.append_nil]
    exact queue
  recycled inOrder waits := by
    obtain ⟨kept, queue⟩ := inOrder
    refine ⟨kept, ?_⟩
    rw [recycled_append, returned_append, Event.again?, Event.back?, if_pos rfl,
      Option.toList_some, Option.toList_none, List.append_nil, List.append_assoc, ← queue, waits]
    rfl
  givenBack inOrder h counted := by
    obtain ⟨kept, queue⟩ := inOrder
    refine ⟨kept, ?_⟩
    rw [recycled_append, returned_append, Event.again?, Event.back?, if_pos rfl,
      Option.toList_some, Option.toList_none, List.append_nil, List.map_append, ← queue, kept,
      List.append_assoc]
    rfl

section Numbered

/-- The instance behind a handle that is live. -/
def held? {β : Type} (x : Exchange β) (h : Nat) : Option β := x.handles[h]?.bind Pooled.value?

/-- The next instance that a pool makes gets the number `n`. -/
def stamped (x : Exchange (Instance α)) (n : Nat) : Exchange (Instance α) :=
  { x with pools := x.pools.map fun p => { p with fresh := { p.fresh with number := n } } }

/-- The action on numbered instances: one that it makes gets the number `n`, and one that it changes
keeps its own. -/
def Action.numbered (x : Exchange (Instance α)) (n : Nat) : Action α → Action (Instance α)
  | .get p => .get p
  | .make a => .make ⟨n, a⟩
  | .clone h =>
      match x.held? h with
      | some i => .make ⟨n, i.value⟩
      | none => .clone h
  | .set h a => .set h ⟨(x.held? h).elim n Instance.number, a⟩
  | .free p h => .free p h

/-- A run on numbered instances, `n` being the next number. -/
def runNumbered (x : Exchange (Instance α)) (n : Nat) : List (Action α) → Exchange (Instance α)
  | [] => x
  | a :: rest => ((x.stamped n).after (a.numbered x n)).runNumbered (n + 1) rest

/-- The events of a run on numbered instances. -/
def historyNumbered (x : Exchange (Instance α)) (n : Nat) : List (Action α) →
    List (Event (Instance α))
  | [] => []
  | a :: rest => ((x.stamped n).event? (a.numbered x n)).toList ++
      ((x.stamped n).after (a.numbered x n)).historyNumbered (n + 1) rest

variable {u v : Exchange (Instance α)} {told : List (Event (Instance α))}

theorem images_stamped (images : Images Instance.value u x) (n : Nat) :
    Images Instance.value (u.stamped n) x := by
  refine ⟨fun i => ?_, images.handles⟩
  have pool := images.pools i
  rw [stamped, List.getElem?_map]
  generalize u.pools[i]? = pool?, x.pools[i]? = image? at pool ⊢
  cases pool with
  | none => exact .none
  | some same => exact .some ⟨same.stats, same.fresh, same.kept, same.idle⟩

/-- An action on numbered instances does and tells what it does and tells without numbers. -/
theorem after_numbered (images : Images Instance.value u x) (n : Nat) (a : Action α) :
    Images Instance.value ((u.stamped n).after (a.numbered u n)) (x.after a) ∧
      x.event? a = ((u.stamped n).event? (a.numbered u n)).map (Event.map Instance.value) := by
  have same : x.after ((a.numbered u n).map Instance.value) = x.after a ∧
      x.event? ((a.numbered u n).map Instance.value) = x.event? a := by
    cases a with
    | get | make | set | free => exact ⟨rfl, rfl⟩
    | clone h =>
      cases held : u.held? h with
      | none => simp only [Action.numbered, held, Action.map, and_self]
      | some i =>
        obtain ⟨handle, there, live⟩ := Option.bind_eq_some_iff.mp held
        have here : x.handles[h]? = some (handle.map Instance.value) := by
          rw [images.getElem?_handles, there, Option.map_some]
        have copy : handle.map Instance.value = ⟨some i.value, handle.counted⟩ := by
          rw [Pooled.map, live, Option.map_some]
        rw [copy] at here
        simp only [Action.numbered, held, Action.map, after, step, event?, here]
        exact ⟨rfl, rfl⟩
  have image := after_images (images_stamped images n) (a.numbered u n)
  rwa [same.1, same.2] at image

/-- **Numbers change nothing else.** -/
theorem numbered_images (images : Images Instance.value u x) (n : Nat) (actions : List (Action α)) :
    Images Instance.value (u.runNumbered n actions) (x.run actions) ∧
      x.history actions = (u.historyNumbered n actions).map (Event.map Instance.value) := by
  induction actions generalizing u x n with
  | nil => exact ⟨images, rfl⟩
  | cons a rest ih =>
    obtain ⟨after, event⟩ := after_numbered images n a
    obtain ⟨run, history⟩ := ih after (n + 1)
    rw [run_cons, Exchange.history, history, event, historyNumbered, List.map_append,
      Option.toList_map]
    exact ⟨run, rfl⟩

/-- In how many places the instance with number `k` is: behind live handles, or waiting. -/
def places (u : Exchange (Instance α)) (k : Nat) : Nat :=
  (u.handles.countP fun h => h.value?.any (·.number == k)) +
    (u.pools.map fun p => p.idle.countP (·.number == k)).sum

theorem places_stamped (u : Exchange (Instance α)) (n k : Nat) :
    (u.stamped n).places k = u.places k := by
  rw [places, places, stamped, List.map_map]
  rfl

/-- No instance is in two places, and those to come are in none. -/
def Apart (u : Exchange (Instance α)) (n : Nat) : Prop :=
  ∀ k, u.places k ≤ if k < n then 1 else 0

theorem places_addHandle (u : Exchange (Instance α)) (h : Pooled (Instance α)) (k : Nat) :
    (u.addHandle h).places k = u.places k + if h.value?.any (·.number == k) then 1 else 0 := by
  rw [places, places, addHandle, List.countP_append, List.countP_singleton, Nat.add_right_comm]

section Places

variable {p i k : Nat} {pool : Pool (Instance α)} {a b : Instance α} {counted : Bool}

/-- A new instance is where it is handed out. -/
theorem places_built (here : u.pools[p]? = some pool) (stats : PoolStats) (k : Nat) :
    places ⟨u.pools.set p { pool with stats }, u.handles ++ [⟨some pool.fresh, true⟩]⟩ k =
      u.places k + if pool.fresh.number == k then 1 else 0 := by
  obtain ⟨others, all, put, -⟩ := exists_sum_others here fun p => p.idle.countP (·.number == k)
  rw [places, places, all, put, List.countP_append, List.countP_singleton, Option.any_some]
  dsimp only
  omega

/-- What was waiting in front is now behind a handle. -/
theorem places_recycled {idle : List (Instance α)} (here : u.pools[p]? = some pool)
    (waits : pool.idle = a :: idle) (stats : PoolStats) (k : Nat) :
    places ⟨u.pools.set p { pool with stats, idle }, u.handles ++ [⟨some a, true⟩]⟩ k =
      u.places k := by
  obtain ⟨others, all, put, -⟩ := exists_sum_others here fun p => p.idle.countP (·.number == k)
  rw [places, places, all, put, waits, List.countP_cons, List.countP_append,
    List.countP_singleton, Option.any_some]
  dsimp only
  omega

/-- An instance that changes stays where it is. -/
theorem places_changed (here : u.handles[i]? = some ⟨some a, counted⟩)
    (same : b.number = a.number) (k : Nat) :
    places { u with handles := u.handles.set i ⟨some b, counted⟩ } k = u.places k := by
  obtain ⟨others, all, put⟩ := exists_countP_others here fun h => h.value?.any (·.number == k)
  rw [places, places, put, all, Option.any_some, Option.any_some, same]

/-- What was behind a handle waits at the end of a queue. -/
theorem places_givenBack (here : u.pools[p]? = some pool)
    (held : u.handles[i]? = some ⟨some a, counted⟩) (same : b.number = a.number)
    (stats : PoolStats) (k : Nat) :
    places ⟨u.pools.set p { pool with stats, idle := pool.idle ++ [b] },
      u.handles.set i ⟨none, counted⟩⟩ k = u.places k := by
  obtain ⟨live, handles, empty⟩ := exists_countP_others held fun h => h.value?.any (·.number == k)
  obtain ⟨others, all, put, -⟩ := exists_sum_others here fun p => p.idle.countP (·.number == k)
  rw [places, places, all, put, handles, empty, List.countP_append, List.countP_singleton,
    Option.any_some, Option.any_none, same, if_neg Bool.false_ne_true]
  omega

end Places

theorem exists_of_stamped {p n : Nat} {pool : Pool (Instance α)}
    (here : (u.stamped n).pools[p]? = some pool) :
    ∃ q, u.pools[p]? = some q ∧ pool = { q with fresh := { q.fresh with number := n } } := by
  rw [stamped, List.getElem?_map] at here
  obtain ⟨q, there, rfl⟩ := Option.map_eq_some_iff.mp here
  exact ⟨q, there, rfl⟩

/-- An action brings at most one more instance into the world; the others move, or stay. -/
theorem places_kept (keep : ∀ p ∈ u.pools, ∀ i, (p.kept i).number = i.number) (n : Nat)
    (a : Action α) (k : Nat) :
    ((u.stamped n).after (a.numbered u n)).places k ≤ u.places k + if n == k then 1 else 0 := by
  have happens := (u.stamped n).happens (a.numbered u n)
  rw [← u.places_stamped n]
  generalize (u.stamped n).after (a.numbered u n) = v at happens ⊢
  generalize (u.stamped n).event? (a.numbered u n) = event? at happens
  cases a with
  | get p =>
    cases happens with
    | nothing => exact Nat.le_add_right ..
    | @built _ pool here empty =>
      have new : pool.fresh.number = n := by
        obtain ⟨q, -, rfl⟩ := exists_of_stamped here
        rfl
      exact Nat.le_of_eq (by rw [places_built here, new])
    | recycled here waits =>
      rw [places_recycled here waits]
      exact Nat.le_add_right ..
  | make a =>
    cases happens with
    | nothing => exact Nat.le_add_right ..
    | made => exact Nat.le_of_eq (places_addHandle ..)
  | clone h =>
    cases held : u.held? h with
    | none =>
      simp only [Action.numbered, held] at happens
      cases happens with
      | nothing => exact Nat.le_add_right ..
      | @cloned _ handle here =>
        -- the copy of a freed handle holds nothing
        have freed : handle.value? = none := by
          change u.handles[h]? = some handle at here
          rwa [held?, here, Option.bind_some] at held
        rw [places_addHandle, freed]
        exact Nat.add_le_add_left (Nat.zero_le _) _
    | some i =>
      simp only [Action.numbered, held] at happens
      cases happens with
      | nothing => exact Nat.le_add_right ..
      | made => exact Nat.le_of_eq (places_addHandle ..)
  | set h a =>
    cases happens with
    | nothing => exact Nat.le_add_right ..
    | @changed _ i _ counted here =>
      have held : u.held? h = some i := by
        change u.handles[h]? = _ at here
        rw [held?, here, Option.bind_some]
      rw [places_changed here (by rw [held]; rfl)]
      exact Nat.le_add_right ..
  | free p h =>
    cases happens with
    | nothing => exact Nat.le_add_right ..
    | @givenBack _ _ pool i counted here held =>
      have same : (pool.kept i).number = i.number := by
        obtain ⟨q, there, rfl⟩ := exists_of_stamped here
        exact keep q (List.mem_of_getElem? there) i
      rw [places_givenBack here held same]
      exact Nat.le_add_right ..

/-- A run on numbered instances takes them in order, and keeps them apart. -/
theorem runNumbered_kept {keeps : Nat → Instance α → Instance α}
    (same : ∀ i a, (keeps i a).number = a.number)
    (all : ∀ i p, u.pools[i]? = some p → InOrder (keeps i) told i p) {n : Nat} (apart : u.Apart n)
    (actions : List (Action α)) :
    (∀ i p, (u.runNumbered n actions).pools[i]? = some p →
        InOrder (keeps i) (told ++ u.historyNumbered n actions) i p) ∧
      (u.runNumbered n actions).Apart (n + actions.length) := by
  induction actions generalizing u told n with
  | nil =>
    rw [historyNumbered, List.append_nil]
    exact ⟨all, apart⟩
  | cons a rest ih =>
    have stamped : ∀ i p, (u.stamped n).pools[i]? = some p → InOrder (keeps i) told i p := by
      intro i p here
      obtain ⟨q, there, rfl⟩ := exists_of_stamped here
      exact ⟨(all i q there).kept, (all i q there).queue⟩
    have keep : ∀ p ∈ u.pools, ∀ i, (p.kept i).number = i.number := by
      intro p here a
      obtain ⟨i, there⟩ := List.mem_iff_getElem?.mp here
      rw [(all i p there).kept, same]
    have next : ((u.stamped n).after (a.numbered u n)).Apart (n + 1) := by
      intro k
      have placed := places_kept keep n a k
      have before := apart k
      simp only [beq_iff_eq] at placed
      split at placed <;> split at before <;> split <;> omega
    rw [historyNumbered, ← List.append_assoc, List.length_cons, Nat.add_comm rest.length,
      ← Nat.add_assoc]
    have happens := (u.stamped n).happens (a.numbered u n)
    exact ih ((inOrder_keptAt keeps).pools told stamped happens) next

end Numbered

/-- A run on pools recycles their instances in order; `u` and `told` are what it comes to where all
instances are numbered. -/
structure Recycles (pools : List (Pool α)) (actions : List (Action α)) (u : Exchange (Instance α))
    (told : List (Event (Instance α))) : Prop where
  /-- The numbers change nothing else. -/
  values : Images Instance.value u ((opening pools).run actions)
  events : (opening pools).history actions = told.map (Event.map Instance.value)
  /-- No instance is behind two live handles, or behind one while it waits. -/
  apart : ∀ k, u.places k ≤ 1
  /-- The `k`-th instance that is handed out again is the `k`-th one that came back. -/
  turn : ∀ (i : Nat) p, u.pools[i]? = some p → ∀ (k : Nat) (inst : Instance α),
    (recycled i told)[k]? = some inst → ∃ back : Instance α, (returned i told)[k]? = some back ∧
      inst.number = back.number
  /-- It holds what it held when it came back, unless the pool resets it. -/
  plain : ∀ (i : Nat) name fresh p, pools[i]? = some (.plain name fresh) → u.pools[i]? = some p →
    recycled i told ++ p.idle = returned i told
  resetting : ∀ (i : Nat) name fresh reset p, pools[i]? = some (.resetting name fresh reset) →
    u.pools[i]? = some p →
    recycled i told ++ p.idle = (returned i told).map (Instance.change reset)

/-- What the pool at place `i` makes of an instance that comes back. -/
def keepsAt (pools : List (Pool α)) (i : Nat) (inst : Instance α) : Instance α :=
  inst.change ((pools[i]?.map Pool.kept).getD id)

section First

variable {pools : List (Pool α)}

theorem images_numbered (new : ∀ p ∈ pools, p.New) :
    Images Instance.value (opening (pools.map Pool.numbered)) (opening pools) := by
  refine ⟨fun i => ?_, rfl⟩
  rw [opening, opening, List.getElem?_map]
  cases here : pools[i]? with
  | none => exact .none
  | some p => exact .some (new p (List.mem_of_getElem? here)).images

theorem inOrder_numbered (i : Nat) (p : Pool (Instance α))
    (here : (opening (pools.map Pool.numbered)).pools[i]? = some p) :
    InOrder (keepsAt pools i) [] i p := by
  rw [opening, List.getElem?_map] at here
  obtain ⟨q, there, rfl⟩ := Option.map_eq_some_iff.mp here
  refine ⟨fun a => ?_, rfl⟩
  rw [Pool.kept_numbered, keepsAt, there, Option.map_some, Option.getD_some]

theorem apart_numbered (pools : List (Pool α)) : (opening (pools.map Pool.numbered)).Apart 0 := by
  intro k
  have zero : ∀ n ∈ (pools.map Pool.numbered).map fun p => p.idle.countP (·.number == k),
      n = 0 := by
    intro n there
    obtain ⟨p, here, rfl⟩ := List.mem_map.mp there
    obtain ⟨q, -, rfl⟩ := List.mem_map.mp here
    rfl
  rw [places, opening, List.countP_nil, List.sum_eq_zero_iff_forall_eq_nat.mpr zero]
  exact Nat.zero_le _

end First

/-- **Instances are recycled in order,** whatever is done with any number of pools and handles. -/
theorem recycles {pools : List (Pool α)} (new : ∀ p ∈ pools, p.New) (actions : List (Action α)) :
    Recycles pools actions ((opening (pools.map Pool.numbered)).runNumbered 0 actions)
      ((opening (pools.map Pool.numbered)).historyNumbered 0 actions) := by
  obtain ⟨values, events⟩ := numbered_images (images_numbered new) 0 actions
  have same : ∀ i (a : Instance α), (keepsAt pools i a).number = a.number := fun _ _ => rfl
  obtain ⟨inOrder, places⟩ :=
    runNumbered_kept same inOrder_numbered (apart_numbered pools) actions
  rw [List.nil_append] at inOrder
  generalize (opening (pools.map Pool.numbered)).runNumbered 0 actions = u at *
  generalize (opening (pools.map Pool.numbered)).historyNumbered 0 actions = told at *
  refine ⟨values, events, fun k => Nat.le_trans (places k) (by split <;> omega), ?_, ?_, ?_⟩
  · intro i p here k inst there
    have waits : (recycled i told ++ p.idle)[k]? = some inst :=
      (List.getElem?_append_left (List.getElem?_eq_some_iff.mp there).1).trans there
    rw [(inOrder i p here).queue, List.getElem?_map] at waits
    obtain ⟨back, came, rfl⟩ := Option.map_eq_some_iff.mp waits
    exact ⟨back, came, rfl⟩
  · intro i name fresh p start here
    have keeps : keepsAt pools i = id := by
      funext a
      rw [keepsAt, start]
      rfl
    rw [(inOrder i p here).queue, keeps, List.map_id]
  · intro i name fresh reset p start here
    have keeps : keepsAt pools i = Instance.change reset := by
      funext a
      rw [keepsAt, start]
      rfl
    rw [(inOrder i p here).queue, keeps]

end Exchange

end CallWire
