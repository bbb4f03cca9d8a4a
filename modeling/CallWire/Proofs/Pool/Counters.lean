import CallWire.Proofs.Pool.Histories
import CallWire.Proofs.PoolLedger

/-!
# Pool counters are exact

After any run on any number of pools, the counters of each pool tell of its own events, and all of
them together of the handles that are live (`Exchange.run_exact`). Instances may be given back to
another pool than they came from, which shows in both; as long as none is, the handles that a pool
has outstanding are its live ones.

* `Tallied`: what everything that can happen keeps, of one pool (`counts_keptAt`), of all of them
  (`owed_kept`) and of the handles that go back to where they came from (`live_kept`);
* `Spent`, `run_freed`: handles that were given back stay so.
-/

namespace CallWire.Exchange

variable {α : Type}

namespace Event

/-- A handle is handed out by the pool at place `i`. -/
def servedBy (i : Nat) : Event α → Bool
  | handedOut p _ _ => p == i
  | made | givenBack _ _ _ _ => false

/-- A handle is handed out by the pool at place `i`, on an instance that has waited. -/
def recycledBy (i : Nat) : Event α → Bool
  | handedOut p waited _ => waited && p == i
  | made | givenBack _ _ _ _ => false

/-- A handle is handed out by the pool at place `i`, on a new instance. -/
def builtBy (i : Nat) : Event α → Bool
  | handedOut p waited _ => !waited && p == i
  | made | givenBack _ _ _ _ => false

/-- A handle is given back to the pool at place `i`. -/
def backAt (i : Nat) : Event α → Bool
  | givenBack p _ _ _ => p == i
  | handedOut _ _ _ | made => false

/-- A handle that some pool has handed out is given back to the pool at place `i`. -/
def settledAt (i : Nat) : Event α → Bool
  | givenBack p _ counted _ => counted && p == i
  | handedOut _ _ _ | made => false

/-- Where a new handle comes from: a pool, or none. -/
def origin? : Event α → Option (Option Nat)
  | handedOut p _ _ => some (some p)
  | made => some none
  | givenBack _ _ _ _ => none

end Event

/-- Where all handles come from, in the order in which they came into being. -/
def origins (events : List (Event α)) : List (Option Nat) := events.filterMap Event.origin?

/-- Every handle that a pool counts was given back to the pool that it came from. -/
def Homeward (events : List (Event α)) : Prop :=
  ∀ p h a, .givenBack p h true a ∈ events → (origins events)[h]? = some (some p)

/-- How many of the handles are live and come from the pool at place `i`. -/
def liveFrom (handles : List (Pooled α)) (origins : List (Option Nat)) (i : Nat) : Nat :=
  (handles.zip origins).countP fun e => !e.1.isFreed && e.2 == some i

/-- How many of the handles that pools count are live. -/
def liveCounted (x : Exchange α) : Nat := x.handles.countP fun h => h.counted && !h.isFreed

/-- What all pools together have outstanding, as far as their counters can tell. -/
def owed (pools : List (Pool α)) : UInt64 :=
  .ofNat (pools.map fun p => p.stats.outstanding.toNat).sum

/-- What the counters of the pool at place `i` tell of the events. -/
structure Counts (events : List (Event α)) (i : Nat) (p : Pool α) : Prop where
  reused : p.stats.reused = .ofNat (events.countP (Event.recycledBy i))
  newed : p.stats.newed = .ofNat (events.countP (Event.builtBy i))
  idle : p.idle.length + events.countP (Event.recycledBy i) = events.countP (Event.backAt i)
  outstanding : p.stats.outstanding =
    .ofNat (events.countP (Event.servedBy i)) - .ofNat (events.countP (Event.settledAt i))

/-- All that counters, events and handles have to do with each other. -/
structure Tallied (x : Exchange α) (events : List (Event α)) : Prop where
  pools : ∀ i p, x.pools[i]? = some p → Counts events i p
  /-- A handle is counted if it came from a pool. -/
  handed : x.handles.map Pooled.counted = (origins events).map Option.isSome
  returned : ∀ p h counted a, .givenBack p h counted a ∈ events →
    x.handles[h]? = some ⟨none, counted⟩
  owed : owed x.pools = .ofNat x.liveCounted
  live : Homeward events → ∀ i, events.countP (Event.servedBy i) =
    events.countP (Event.settledAt i) + liveFrom x.handles (origins events) i

variable {x y : Exchange α} {a : Action α} {events : List (Event α)} {event? : Option (Event α)}
  {i p : Nat} {pool : Pool α}

/-- Every handle that is handed out is on an instance that has waited or on a new one. -/
theorem countP_servedBy (events : List (Event α)) (i : Nat) :
    events.countP (Event.servedBy i) =
      events.countP (Event.recycledBy i) + events.countP (Event.builtBy i) := by
  induction events with
  | nil => rfl
  | cons e rest ih =>
    rw [List.countP_cons, List.countP_cons, List.countP_cons, ih]
    cases e with
    | handedOut p waited a => grind [Event.servedBy, Event.recycledBy, Event.builtBy]
    | made | givenBack => rfl

theorem Counts.of_new (new : pool.New) (i : Nat) : Counts ([] : List (Event α)) i pool := by
  cases new <;> exact ⟨rfl, rfl, rfl, (UInt64.sub_self _).symm⟩

theorem countP_concat {β : Type} (P : β → Bool) (l : List β) (b : β) :
    (l ++ [b]).countP P = l.countP P + if P b then 1 else 0 := by
  rw [List.countP_append, List.countP_singleton]

theorem ofNat_countP_concat {β : Type} (P : β → Bool) (l : List β) (b : β) :
    UInt64.ofNat ((l ++ [b]).countP P) = .ofNat (l.countP P) + if P b then 1 else 0 := by
  rw [countP_concat, UInt64.ofNat_add]
  cases P b <;> rfl

/-- What happens elsewhere does not count. -/
theorem Counts.elsewhere (counts : Counts events i pool) {e : Event α}
    (other : e.pool? ≠ some i) : Counts (events ++ [e]) i pool := by
  have silent : e.servedBy i = false ∧ e.recycledBy i = false ∧ e.builtBy i = false ∧
      e.backAt i = false ∧ e.settledAt i = false := by
    cases e <;> simp_all [Event.pool?, Event.servedBy, Event.recycledBy, Event.builtBy,
      Event.backAt, Event.settledAt]
  obtain ⟨reused, newed, idle, outstanding⟩ := counts
  constructor <;> simpa [List.countP_append, silent]

/-- What happens at a pool shows in its counters. -/
theorem counts_keptAt : KeptAt (Counts (α := α)) where
  elsewhere counts other := counts.elsewhere other
  built counts _ := by
    obtain ⟨reused, newed, idle, outstanding⟩ := counts
    refine ⟨?_, ?_, ?_, ?_⟩
    · simpa [Event.recycledBy] using reused
    · simpa [Event.builtBy, UInt64.ofNat_add] using newed
    · simpa [Event.recycledBy, Event.backAt] using idle
    · rw [ofNat_countP_concat, ofNat_countP_concat, outstanding]
      grind [Event.servedBy, Event.settledAt]
  recycled counts waits := by
    obtain ⟨reused, newed, idle, outstanding⟩ := counts
    rw [waits, List.length_cons] at idle
    refine ⟨?_, ?_, ?_, ?_⟩
    · simpa [Event.recycledBy, UInt64.ofNat_add] using reused
    · simpa [Event.builtBy] using newed
    · simpa [Event.recycledBy, Event.backAt, Nat.add_assoc, Nat.add_comm 1] using idle
    · rw [ofNat_countP_concat, ofNat_countP_concat, outstanding]
      grind [Event.servedBy, Event.settledAt]
  givenBack counts h counted := by
    obtain ⟨reused, newed, idle, outstanding⟩ := counts
    refine ⟨?_, ?_, ?_, ?_⟩
    · simpa [Event.recycledBy] using reused
    · simpa [Event.builtBy] using newed
    · rw [countP_concat, countP_concat, List.length_append]
      grind [Event.recycledBy, Event.backAt]
    · rw [ofNat_countP_concat, ofNat_countP_concat, outstanding]
      grind [Event.servedBy, Event.settledAt]

/-- All pools together owe what they owed, less what one of them did, and what it does now. -/
theorem owed_set {pools : List (Pool α)} (here : pools[p]? = some pool) (next : Pool α) :
    owed (pools.set p next) = owed pools - pool.stats.outstanding + next.stats.outstanding := by
  obtain ⟨others, all, put, -⟩ := exists_sum_others here fun q => q.stats.outstanding.toNat
  rw [owed, owed, all, put, UInt64.ofNat_add, UInt64.ofNat_add, UInt64.ofNat_toNat,
    UInt64.ofNat_toNat]
  grind

theorem owed_kept (total : owed x.pools = .ofNat x.liveCounted) (happens : Happens x a y event?) :
    owed y.pools = .ofNat y.liveCounted := by
  cases happens with
  | nothing => exact total
  | changed here =>
    obtain ⟨others, all, put⟩ := exists_countP_others here fun h => h.counted && !h.isFreed
    rw [total, liveCounted, liveCounted, all, put]
    rfl
  | made | cloned =>
    rw [liveCounted, addHandle, countP_concat]
    exact total
  | built here | recycled here =>
    rw [owed_set here, total, liveCounted, liveCounted, ofNat_countP_concat]
    grind [Pooled.isFreed]
  | @givenBack _ _ pool _ counted here held =>
    obtain ⟨others, all, put⟩ := exists_countP_others held fun h => h.counted && !h.isFreed
    rw [owed_set here, total, liveCounted, liveCounted, all, put]
    cases counted with
    | false => exact UInt64.sub_add_cancel ..
    | true =>
      change UInt64.ofNat (others + 1) - pool.stats.outstanding + (pool.stats.outstanding - 1) =
        UInt64.ofNat others
      rw [UInt64.ofNat_add]
      grind

theorem origins_append (events : List (Event α)) (e : Event α) :
    origins (events ++ [e]) = origins events ++ e.origin?.toList := by
  rw [origins, List.filterMap_append, ← origins]
  rfl

theorem origins_kept (same : x.handles.map Pooled.counted = (origins events).map Option.isSome)
    (happens : Happens x a y event?) :
    y.handles.map Pooled.counted = (origins (events ++ event?.toList)).map Option.isSome := by
  cases happens with
  | nothing =>
    rw [Option.toList_none, List.append_nil]
    exact same
  | changed here =>
    rw [Option.toList_none, List.append_nil, ← same]
    exact map_set_of_same here rfl
  | made | cloned =>
    rw [Option.toList_some, origins_append, List.map_append, addHandle, List.map_append, same]
    rfl
  | built here | recycled here =>
    rw [Option.toList_some, origins_append, List.map_append, List.map_append, same]
    rfl
  | givenBack here held =>
    rw [Option.toList_some, origins_append, Event.origin?, Option.toList_none, List.append_nil,
      ← same]
    exact map_set_of_same held rfl

/-- A handle that was given back stays so. -/
theorem freed_kept {k : Nat} {counted : Bool} (freed : x.handles[k]? = some ⟨none, counted⟩)
    (happens : Happens x a y event?) : y.handles[k]? = some ⟨none, counted⟩ := by
  obtain ⟨inside, -⟩ := List.getElem?_eq_some_iff.mp freed
  cases happens with
  | nothing => exact freed
  | @changed i a b _ here =>
    have other : i ≠ k := by
      rintro rfl
      cases here.symm.trans freed
    rwa [List.getElem?_set_ne other]
  | made | cloned => rwa [addHandle, List.getElem?_append_left inside]
  | built | recycled => rwa [List.getElem?_append_left inside]
  | @givenBack p i pool a _ here held =>
    have other : i ≠ k := by
      rintro rfl
      cases held.symm.trans freed
    rwa [List.getElem?_set_ne other]

theorem run_freed {k : Nat} {counted : Bool} (freed : x.handles[k]? = some ⟨none, counted⟩)
    (later : List (Action α)) : (x.run later).handles[k]? = some ⟨none, counted⟩ :=
  @run_history α (fun x _ => x.handles[k]? = some ⟨none, counted⟩)
    (fun freed happens => freed_kept freed happens) x [] freed later

theorem returned_kept
    (returned : ∀ p h counted a, .givenBack p h counted a ∈ events →
      x.handles[h]? = some ⟨none, counted⟩)
    (happens : Happens x a y event?) :
    ∀ p h counted a, .givenBack p h counted a ∈ events ++ event?.toList →
      y.handles[h]? = some ⟨none, counted⟩ := by
  intro p h counted a there
  rcases List.mem_append.mp there with before | now
  · exact freed_kept (returned p h counted a before) happens
  · rw [Option.mem_toList] at now
    cases now
    cases happens with
    | givenBack here held =>
      obtain ⟨inside, -⟩ := List.getElem?_eq_some_iff.mp held
      exact List.getElem?_set_self inside

/-- Events that only send handles home did so before the last of them as well. -/
theorem Homeward.of_append {more : List (Event α)} (home : Homeward (events ++ more))
    (inside : ∀ p h counted a, .givenBack p h counted a ∈ events → h < (origins events).length) :
    Homeward events := by
  intro p h a there
  have found := home p h a (List.mem_append_left _ there)
  rw [origins, List.filterMap_append] at found
  rwa [← List.getElem?_append_left (inside p h true a there)]

theorem liveFrom_concat {handles : List (Pooled α)} {origins : List (Option Nat)}
    (same : handles.length = origins.length) (h : Pooled α) (origin : Option Nat) (i : Nat) :
    liveFrom (handles ++ [h]) (origins ++ [origin]) i =
      liveFrom handles origins i + if !h.isFreed && origin == some i then 1 else 0 := by
  rw [liveFrom, List.zip_append same, List.countP_append, ← liveFrom]
  simp

theorem exists_liveFrom_others {handles : List (Pooled α)} {origins : List (Option Nat)} {k : Nat}
    {h : Pooled α} {origin : Option Nat} (here : handles[k]? = some h)
    (comes : origins[k]? = some origin) (i : Nat) :
    ∃ others, liveFrom handles origins i =
        others + (if !h.isFreed && origin == some i then 1 else 0) ∧
      ∀ next, liveFrom (handles.set k next) origins i =
        others + if !next.isFreed && origin == some i then 1 else 0 := by
  have pair : (handles.zip origins)[k]? = some (h, origin) :=
    List.getElem?_zip_eq_some.mpr ⟨here, comes⟩
  obtain ⟨others, all, put⟩ := exists_countP_others pair fun e => !e.1.isFreed && e.2 == some i
  refine ⟨others, all, fun next => ?_⟩
  rw [liveFrom, zip_set comes]
  exact put (next, origin)

/-- Every handle comes from somewhere, and from a pool if it is counted. -/
theorem exists_origin (same : x.handles.map Pooled.counted = (origins events).map Option.isSome)
    {k : Nat} {h : Pooled α} (here : x.handles[k]? = some h) :
    ∃ origin, (origins events)[k]? = some origin ∧ origin.isSome = h.counted := by
  have there : ((origins events).map Option.isSome)[k]? = some h.counted := by
    rw [← same, List.getElem?_map, here, Option.map_some]
  rw [List.getElem?_map] at there
  exact Option.map_eq_some_iff.mp there

/-- As long as handles go home, those that a pool has handed out have gone back there or are
live. -/
theorem live_kept (same : x.handles.map Pooled.counted = (origins events).map Option.isSome)
    (live : ∀ i, events.countP (Event.servedBy i) =
      events.countP (Event.settledAt i) + liveFrom x.handles (origins events) i)
    (happens : Happens x a y event?) (home : Homeward (events ++ event?.toList)) (i : Nat) :
    (events ++ event?.toList).countP (Event.servedBy i) =
      (events ++ event?.toList).countP (Event.settledAt i) +
        liveFrom y.handles (origins (events ++ event?.toList)) i := by
  have length : x.handles.length = (origins events).length := by
    simpa using congrArg List.length same
  have now := live i
  cases happens with
  | nothing => simpa using now
  | changed here =>
    obtain ⟨origin, comes, -⟩ := exists_origin same here
    obtain ⟨others, all, put⟩ := exists_liveFrom_others here comes i
    rw [Option.toList_none, List.append_nil, put, now, all]
    rfl
  | made | cloned =>
    rw [Option.toList_some, origins_append, Event.origin?, Option.toList_some, addHandle,
      liveFrom_concat length]
    simpa [Event.servedBy, Event.settledAt] using now
  | built here | recycled here =>
    rw [Option.toList_some, origins_append, Event.origin?, Option.toList_some,
      liveFrom_concat length, countP_concat, countP_concat]
    grind [Event.servedBy, Event.settledAt, Pooled.isFreed]
  | @givenBack p k pool a counted here held =>
    obtain ⟨origin, comes, handed⟩ := exists_origin same held
    obtain ⟨others, all, put⟩ := exists_liveFrom_others held comes i
    have kept : origins (events ++ [.givenBack p k counted a]) = origins events := by
      rw [origins_append, Event.origin?, Option.toList_none, List.append_nil]
    rw [Option.toList_some, kept, put, countP_concat, countP_concat, now, all]
    cases counted with
    | false =>
      -- a handle that no pool counts has come from none
      have uncounted := Option.isSome_eq_false_iff.mp handed
      grind [Event.servedBy, Event.settledAt]
    | true =>
      have there := home p k a (by simp)
      rw [Option.toList_some, kept, comes, Option.some.injEq] at there
      grind [Event.servedBy, Event.settledAt, Pooled.isFreed]

namespace Tallied

theorem of_new {pools : List (Pool α)} (new : ∀ p ∈ pools, p.New) : Tallied (opening pools) [] where
  pools i p here := .of_new (new p (List.mem_of_getElem? here)) i
  handed := rfl
  returned _ _ _ _ there := nomatch there
  owed := by
    have zero : ∀ n ∈ pools.map fun p => p.stats.outstanding.toNat, n = 0 := by
      intro n there
      obtain ⟨p, here, rfl⟩ := List.mem_map.mp there
      cases new p here <;> rfl
    rw [Exchange.owed, opening, List.sum_eq_zero_iff_forall_eq_nat.mpr zero]
    rfl
  live _ _ := rfl

theorem kept (tallied : Tallied x events) (happens : Happens x a y event?) :
    Tallied y (events ++ event?.toList) where
  pools := counts_keptAt.pools events tallied.pools happens
  handed := origins_kept tallied.handed happens
  returned := returned_kept tallied.returned happens
  owed := owed_kept tallied.owed happens
  live home := by
    have length : x.handles.length = (origins events).length := by
      simpa using congrArg List.length tallied.handed
    refine live_kept tallied.handed (tallied.live (home.of_append ?_)) happens home
    intro p h counted a there
    rw [← length]
    exact (List.getElem?_eq_some_iff.mp (tallied.returned p h counted a there)).1

end Tallied

/-- The action asks the pool at place `i` for a handle. -/
def Action.asks (i : Nat) : Action α → Bool
  | .get p => p == i
  | .make _ | .clone _ | .set _ _ | .free _ _ => false

theorem after_pools_length (x : Exchange α) (a : Action α) :
    (x.after a).pools.length = x.pools.length := by
  have happens := x.happens a
  generalize x.after a = y at happens
  generalize x.event? a = event? at happens
  cases happens with
  | nothing | changed | made | cloned => rfl
  | built | recycled | givenBack => exact List.length_set

/-- A request at a pool that exists is served. -/
theorem countP_event? (inside : i < x.pools.length) (a : Action α) :
    (x.event? a).toList.countP (Event.servedBy i) = if a.asks i then 1 else 0 := by
  cases a with
  | get p =>
    cases here : x.pools[p]? with
    | none =>
      have other : p ≠ i := by
        rintro rfl
        exact Nat.not_lt.mpr (List.getElem?_eq_none_iff.mp here) inside
      simp [event?, here, Action.asks, other]
    | some pool =>
      cases waits : pool.idle with
      | nil => simp [event?, here, Pool.get_of_empty waits, Event.servedBy, Action.asks]
      | cons a idle => simp [event?, here, Pool.get_of_waiting waits, Event.servedBy, Action.asks]
  | make value | set h value => rfl
  | clone h => cases here : x.handles[h]? <;> simp [event?, here, Event.servedBy, Action.asks]
  | free p h =>
    cases told : x.event? (.free p h) with
    | none => rfl
    | some e =>
      obtain ⟨pool, -, told⟩ := Option.bind_eq_some_iff.mp told
      obtain ⟨handle, -, told⟩ := Option.bind_eq_some_iff.mp told
      obtain ⟨value, -, told⟩ := Option.bind_eq_some_iff.mp told
      cases told
      rfl

theorem countP_history (inside : i < x.pools.length) (actions : List (Action α)) :
    (x.history actions).countP (Event.servedBy i) = actions.countP (Action.asks i) := by
  induction actions generalizing x with
  | nil => rfl
  | cons a rest ih =>
    rw [history, List.countP_append, countP_event? inside,
      ih ((x.after_pools_length a).symm ▸ inside), List.countP_cons, Nat.add_comm]

theorem run_pools_length (x : Exchange α) (actions : List (Action α)) :
    (x.run actions).pools.length = x.pools.length := by
  induction actions generalizing x with
  | nil => rfl
  | cons a rest ih => rw [run_cons, ih, after_pools_length]

/-- The counters of the pool at place `i`, and what waits there, are those of its events. -/
structure ExactAt (events : List (Event α)) (i : Nat) (p : Pool α) : Prop where
  gets : p.stats.reused + p.stats.newed = .ofNat (events.countP (Event.servedBy i))
  reused : p.stats.reused = .ofNat (events.countP (Event.recycledBy i))
  idle : p.idle.length + events.countP (Event.recycledBy i) = events.countP (Event.backAt i)
  waiting : .ofNat p.idle.length = .ofNat (events.countP (Event.backAt i)) - p.stats.reused
  outstanding : p.stats.outstanding =
    .ofNat (events.countP (Event.servedBy i)) - .ofNat (events.countP (Event.settledAt i))

theorem Counts.exact (counts : Counts events i pool) : ExactAt events i pool := by
  obtain ⟨reused, newed, idle, outstanding⟩ := counts
  refine ⟨?_, reused, idle, ?_, outstanding⟩
  · rw [reused, newed, countP_servedBy, UInt64.ofNat_add]
  · rw [reused, ← idle, UInt64.ofNat_add, UInt64.add_sub_cancel]

/-- A freed handle is not given back again, to no pool, and trying to changes nothing. -/
def Spent (x : Exchange α) (h : Nat) : Prop :=
  ∀ p pool, x.pools[p]? = some pool →
    x.step (ε := Empty) (.free p h) = .error (.breach (.doubleFree pool.name)) ∧
      x.after (.free p h) = x

theorem spent_of_freed {k : Nat} {counted : Bool} (freed : x.handles[k]? = some ⟨none, counted⟩) :
    Spent x k := by
  intro p pool here
  have refused : x.step (ε := Empty) (.free p k) = .error (.breach (.doubleFree pool.name)) := by
    rw [step, here, freed]
    rfl
  refine ⟨refused, ?_⟩
  rw [after, refused]

/-- What a run comes to: the pools and handles `x` after the actions, and the events. -/
structure Exact (x : Exchange α) (actions : List (Action α)) (events : List (Event α)) : Prop where
  pools : ∀ i p, x.pools[i]? = some p → ExactAt events i p
  gets : ∀ i p, x.pools[i]? = some p →
    events.countP (Event.servedBy i) = actions.countP (Action.asks i)
  /-- A handle is counted if it came from a pool. -/
  handed : x.handles.map Pooled.counted = (origins events).map Option.isSome
  /-- Together, the pools have outstanding what is live. -/
  owed : owed x.pools = .ofNat x.liveCounted
  /-- So has each of them, as long as handles go back to where they came from. -/
  home : Homeward events → ∀ (i : Nat) (p : Pool α), x.pools[i]? = some p →
    p.stats.outstanding = .ofNat (liveFrom x.handles (origins events) i)
  /-- A handle that was given back is not given back again, whatever happens meanwhile. -/
  spent : ∀ p h counted a, .givenBack p h counted a ∈ events → ∀ later, Spent (x.run later) h
  /-- Neither is a handle that was cloned from a freed one. -/
  cloned : ∀ h handle, x.handles[h]? = some handle → handle.isFreed = true →
    ∀ later, Spent (x.run (.clone h :: later)) x.handles.length

/-- **Counters are exact,** whatever is done with any number of pools and handles. -/
theorem run_exact {pools : List (Pool α)} (new : ∀ p ∈ pools, p.New) (actions : List (Action α)) :
    ((opening pools).run actions).Exact actions ((opening pools).history actions) := by
  have tallied : Tallied ((opening pools).run actions) ((opening pools).history actions) :=
    run_history (motive := Tallied) (fun tallied => tallied.kept) (.of_new new) actions
  have size : ((opening pools).run actions).pools.length = pools.length :=
    run_pools_length (opening pools) actions
  generalize shown : (opening pools).run actions = x at *
  refine ⟨fun i p here => (tallied.pools i p here).exact, fun i p here => ?_,
    tallied.handed, tallied.owed, fun home i p here => ?_, ?_, ?_⟩
  · obtain ⟨inside, -⟩ := List.getElem?_eq_some_iff.mp here
    exact countP_history (x := opening pools) (size ▸ inside) actions
  · rw [(tallied.pools i p here).outstanding, tallied.live home i, UInt64.ofNat_add]
    grind
  · intro p h counted a there later
    exact spent_of_freed (run_freed (tallied.returned p h counted a there) later)
  · intro h handle here freed later
    have gone : handle.value? = none := Option.isNone_iff_eq_none.mp freed
    have copied : (x.after (.clone h)).handles[x.handles.length]? = some ⟨none, false⟩ := by
      simp [after, step, here, addHandle, Pooled.clone, gone]
    rw [run_cons]
    exact spent_of_freed (run_freed copied later)

/-- Two handles go back to the same pool, one of them twice, and so does one that nobody counts. -/
def mingled : List (Action Nat) :=
  [.get 0, .get 1, .make 7, .set 0 5, .clone 0, .free 1 0, .free 1 1, .free 1 0, .free 0 2, .get 1,
    .clone 0]

/-- Two handles go home, and one of their clones goes elsewhere. -/
def orderly : List (Action Nat) :=
  [.get 0, .get 1, .get 0, .clone 0, .free 0 0, .free 1 1, .free 1 3]

theorem run_exact_mingled :
    (∀ p ∈ pair, p.New) ∧
      (((opening pair).run mingled).pools.map fun p => (p.stats.outstanding, p.idle)) =
        [(1, [7]), (0, [0])] ∧
      owed ((opening pair).run mingled).pools = 1 ∧
      ((opening pair).run mingled).Spent 5 ∧
      Homeward ((opening pair).history orderly) ∧
      (((opening pair).run orderly).pools[0]?.map fun p => p.stats.outstanding) = some 1 := by
  have home : Homeward ((opening pair).history orderly) := by
    intro p h a there
    have events : (opening pair).history orderly =
        [.handedOut 0 false 0, .handedOut 1 false 0, .handedOut 0 false 0, .made,
          .givenBack 0 0 true 0, .givenBack 1 1 true 0, .givenBack 1 3 false 0] := rfl
    rw [events] at there ⊢
    simp only [List.mem_cons, reduceCtorEq, Event.givenBack.injEq, false_or] at there
    obtain ⟨rfl, rfl, -⟩ | ⟨rfl, rfl, -⟩ | ⟨-, -, counted, -⟩ | absent := there
    · rfl
    · rfl
    · cases counted
    · cases absent
  refine ⟨new_pair, rfl, (run_exact new_pair mingled).owed, ?_, home, ?_⟩
  · exact (run_exact new_pair (mingled.take 10)).cloned 0 ⟨none, true⟩ rfl rfl []
  · exact congrArg some ((run_exact new_pair orderly).home home 0 _ rfl)

end CallWire.Exchange
