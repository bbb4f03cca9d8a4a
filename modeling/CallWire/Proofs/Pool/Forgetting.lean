import CallWire.Proofs.Pool.Recycling
import CallWire.Proofs.StreamSplitting

/-!
# Pools forget

A pool that resets what comes back to what a new instance holds hands out nothing else, whatever
its instances held in between (`Pool.Clears`). The three pools of a connection are of that kind, and
all that is done with them is taking and giving back (`ConnectionPools.Used`).
-/

namespace CallWire

variable {α : Type}

/-- A pool that hands out nothing but `blank`, whatever comes back. -/
structure Pool.Clears (blank : α) (p : Pool α) : Prop where
  fresh : p.fresh = blank
  kept : ∀ a, p.kept a = blank
  idle : ∀ a ∈ p.idle, a = blank

namespace Pool.Clears

variable {blank : α} {p : Pool α}

theorem resetting (name : String) {reset : α → α} (clears : ∀ a, reset a = blank) :
    Clears blank (.resetting name blank reset) :=
  ⟨rfl, clears, nofun⟩

theorem get (clears : Clears blank p) :
    p.get.1 = ⟨some blank, true⟩ ∧ Clears blank p.get.2 := by
  obtain ⟨fresh, kept, idle⟩ := clears
  cases waits : p.idle with
  | nil =>
    rw [get_of_empty waits]
    exact ⟨by rw [fresh], ⟨fresh, kept, idle⟩⟩
  | cons a rest =>
    rw [waits, List.forall_mem_cons] at idle
    rw [get_of_waiting waits, idle.1]
    exact ⟨rfl, ⟨fresh, kept, idle.2⟩⟩

theorem free {ε : Type} (clears : Clears blank p) {h k : Pooled α} {q : Pool α}
    (freed : (p.free h : Except (Fault ε) _) = .ok (k, q)) : Clears blank q := by
  obtain ⟨fresh, kept, idle⟩ := clears
  obtain ⟨_ | a, counted⟩ := h
  · cases freed
  · cases freed
    refine ⟨fresh, kept, fun b there => ?_⟩
    rcases List.mem_append.mp there with before | now
    · exact idle b before
    · rw [List.mem_singleton.mp now]
      exact kept a

end Pool.Clears

namespace Exchange

variable {x y : Exchange α} {action : Action α} {events : List (Event α)}
  {event? : Option (Event α)} {blank : Nat → α}

/-- All pools clear what comes back, and whatever was handed out was blank. -/
structure Blank (blank : Nat → α) (x : Exchange α) (events : List (Event α)) : Prop where
  pools : ∀ i p, x.pools[i]? = some p → Pool.Clears (blank i) p
  handed : ∀ i waited a, .handedOut i waited a ∈ events → a = blank i

theorem clears_keptAt (blank : Nat → α) : KeptAt fun _ i p => Pool.Clears (blank i) p where
  elsewhere clears _ := clears
  built clears _ := ⟨clears.fresh, clears.kept, clears.idle⟩
  recycled clears waits := by
    have idle := clears.idle
    rw [waits, List.forall_mem_cons] at idle
    exact ⟨clears.fresh, clears.kept, idle.2⟩
  givenBack {_ _ p a} clears h counted := by
    have freed : (p.free ⟨some a, counted⟩ : Except (Fault Empty) _) =
        .ok (⟨none, counted⟩, _) := rfl
    exact clears.free freed

theorem blank_kept (before : Blank blank x events) (happens : Happens x action y event?) :
    Blank blank y (events ++ event?.toList) := by
  refine ⟨(clears_keptAt blank).pools events before.pools happens, fun i waited a there => ?_⟩
  rcases List.mem_append.mp there with earlier | now
  · exact before.handed i waited a earlier
  · rw [Option.mem_toList] at now
    cases now
    cases happens with
    | built here empty => exact (before.pools _ _ here).fresh
    | recycled here waits =>
      apply (before.pools _ _ here).idle
      rw [waits]
      exact .head _

/-- A handle as it is handed out: by which pool, whether its instance has waited, and on what. -/
def Event.handed? : Event α → Option (Nat × Bool × α)
  | handedOut p waited a => some (p, waited, a)
  | made | givenBack _ _ _ _ => none

/-- The event without the value in it. -/
def Event.shape : Event α → Event Unit := Event.map fun _ => ()

/-- The action without the value in it. -/
def Action.shape : Action α → Action Unit := Action.map fun _ => ()

/-- The pools without the values in them. -/
def shape (x : Exchange α) : Exchange Unit where
  pools := x.pools.map fun p => ⟨p.stats, (), none, p.idle.map fun _ => ()⟩
  handles := x.handles.map (Pooled.map fun _ => ())

theorem images_shape (x : Exchange α) : Images (fun _ => ()) x x.shape := by
  refine ⟨fun i => ?_, rfl⟩
  rw [shape, List.getElem?_map]
  cases x.pools[i]? with
  | none => exact .none
  | some p => exact .some ⟨rfl, rfl, fun _ => rfl, rfl⟩

/-- Where the events have the same shape and all that is handed out is blank, the same is handed
out. -/
theorem handed_eq_of_shape {events others : List (Event α)}
    (same : events.map Event.shape = others.map Event.shape)
    (left : ∀ i waited a, .handedOut i waited a ∈ events → a = blank i)
    (right : ∀ i waited a, .handedOut i waited a ∈ others → a = blank i) :
    events.filterMap Event.handed? = others.filterMap Event.handed? := by
  induction events generalizing others with
  | nil =>
    rw [List.map_nil, eq_comm, List.map_eq_nil_iff] at same
    rw [same]
  | cons e events ih =>
    cases others with
    | nil => cases same
    | cons f others =>
      obtain ⟨head, tail⟩ := List.cons_eq_cons.mp same
      have rest := ih tail (fun i w a there => left i w a (.tail _ there))
        fun i w a there => right i w a (.tail _ there)
      have first : e.handed? = f.handed? := by
        cases e with
        | handedOut p waited a =>
          cases f with
          | handedOut =>
            cases head
            rw [left p waited a (.head _), Event.handed?, Event.handed?,
              right p waited _ (.head _)]
          | made | givenBack => cases head
        | made | givenBack =>
          cases f with
          | handedOut => cases head
          | made | givenBack => rfl
      rw [List.filterMap_cons, List.filterMap_cons, first, rest]

/-- **What was stored makes no difference:** where all pools clear what comes back, runs that differ
in values only are handed the same. -/
theorem handed_eq {pools : List (Pool α)}
    (clears : ∀ i p, pools[i]? = some p → Pool.Clears (blank i) p)
    {actions others : List (Action α)} (same : actions.map Action.shape = others.map Action.shape) :
    ((opening pools).history actions).filterMap Event.handed? =
      ((opening pools).history others).filterMap Event.handed? := by
  have first : Blank blank (opening pools) [] := ⟨clears, nofun⟩
  have handed (actions : List (Action α)) :=
    (run_history (motive := Blank blank) blank_kept first actions).handed
  have shapes (actions : List (Action α)) :=
    (run_images (images_shape (opening pools)) actions).2
  refine handed_eq_of_shape ?_ (handed actions) (handed others)
  rw [Event.shape, ← shapes, ← shapes, ← Action.shape, same]

end Exchange

namespace ConnectionPools

/-- What can become of the pools of a connection: handles are taken from them and given back, with
whatever is behind them by then. -/
inductive Used : ConnectionPools → Prop where
  | new : Used empty
  | touchFrames {p : ConnectionPools} (used : Used p) : Used { p with frames? := some p.frames }
  | touchLazyFrames {p : ConnectionPools} (used : Used p) :
      Used { p with lazyFrames? := some p.lazyFrames }
  | touchErrors {p : ConnectionPools} (used : Used p) : Used { p with errors? := some p.errors }
  | takeFrame {p : ConnectionPools} (used : Used p) : Used p.takeFrame.2
  | takeLazyFrame {p : ConnectionPools} (used : Used p) : Used p.takeLazyFrame.2
  | takeError {p : ConnectionPools} (used : Used p) : Used p.takeError.2
  | giveFrame {p : ConnectionPools} {h k : Pooled Frame} {pool : Pool Frame} (used : Used p)
      (freed : (p.frames.free h : Outcome _) = .ok (k, pool)) : Used { p with frames? := some pool }
  | giveLazyFrame {p : ConnectionPools} {h k : Pooled LazyFrame} {pool : Pool LazyFrame}
      (used : Used p) (freed : (p.lazyFrames.free h : Outcome _) = .ok (k, pool)) :
      Used { p with lazyFrames? := some pool }
  | giveError {p : ConnectionPools} {h k : Pooled ErrorResponse} {pool : Pool ErrorResponse}
      (used : Used p) (freed : (p.errors.free h : Outcome _) = .ok (k, pool)) :
      Used { p with errors? := some pool }

/-- All three pools hand out nothing but blank instances. -/
structure Clears (p : ConnectionPools) : Prop where
  frames : p.frames.Clears Frame.blank
  lazyFrames : p.lazyFrames.Clears LazyFrame.blank
  errors : p.errors.Clears ErrorResponse.blank

theorem Used.clears {p : ConnectionPools} (used : p.Used) : p.Clears := by
  induction used with
  | new => exact ⟨.resetting _ fun _ => rfl, .resetting _ fun _ => rfl, .resetting _ fun _ => rfl⟩
  | touchFrames _ ih | touchLazyFrames _ ih | touchErrors _ ih =>
    exact ⟨ih.frames, ih.lazyFrames, ih.errors⟩
  | takeFrame _ ih => exact ⟨ih.frames.get.2, ih.lazyFrames, ih.errors⟩
  | takeLazyFrame _ ih => exact ⟨ih.frames, ih.lazyFrames.get.2, ih.errors⟩
  | takeError _ ih => exact ⟨ih.frames, ih.lazyFrames, ih.errors.get.2⟩
  | giveFrame _ freed ih => exact ⟨ih.frames.free freed, ih.lazyFrames, ih.errors⟩
  | giveLazyFrame _ freed ih => exact ⟨ih.frames, ih.lazyFrames.free freed, ih.errors⟩
  | giveError _ freed ih => exact ⟨ih.frames, ih.lazyFrames, ih.errors.free freed⟩

namespace Used

variable {p : ConnectionPools}

theorem freeError (used : p.Used) (h : Pooled ErrorResponse) : (p.freeError h).2.Used := by
  unfold ConnectionPools.freeError
  cases freed : (p.errors.free h : Outcome _) with
  | error fault => exact used.touchErrors
  | ok result => exact used.giveError freed

theorem freeBody? (used : p.Used) (b? : Option HeldBody) : (p.freeBody? b?).Used := by
  match b? with
  | none => exact used
  | some b =>
    cases b with
    | error h =>
      rw [ConnectionPools.freeBody?, freeBody]
      split
      · exact used
      · exact used.freeError h
    | _ => exact used

theorem freeFrame (used : p.Used) (h : Pooled Frame) : (p.freeFrame h).2.Used := by
  have body := used.freeBody? (h.value?.bind (·.body?))
  unfold ConnectionPools.freeFrame
  generalize p.freeBody? (h.value?.bind (·.body?)) = q at body
  simp only
  cases freed : (q.frames.free { h with value? := h.value?.map ({ · with body? := none }) } :
      Outcome _) with
  | error fault => exact body.touchFrames
  | ok result => exact body.giveFrame freed

theorem freeLazyFrame (used : p.Used) (h : Pooled LazyFrame) : (p.freeLazyFrame h).2.Used := by
  have body := used.freeBody? (h.value?.bind (·.body?))
  unfold ConnectionPools.freeLazyFrame
  generalize p.freeBody? (h.value?.bind (·.body?)) = q at body
  simp only
  cases freed : (q.lazyFrames.free { h with value? := h.value?.map ({ · with body? := none }) } :
      Outcome _) with
  | error fault => exact body.touchLazyFrames
  | ok result => exact body.giveLazyFrame freed

theorem readBody (used : p.Used) (type : FrameType) (buf : Bytes) (offset : Nat) :
    (p.readBody type buf offset).2.Used := by
  by_cases error : type = .errorResponse
  · subst error
    unfold ConnectionPools.readBody
    simp only
    cases ErrorResponse.read.runAt buf offset with
    | ok x => exact used.takeError
    | error fault => exact used.takeError.freeError p.takeError.1
  · rw [readBody_of_ne error]
    exact used

theorem readFrame (used : p.Used) (buf : Bytes) (offset : Nat) :
    (p.readFrame buf offset).2.Used := by
  unfold ConnectionPools.readFrame
  cases FrameHeader.read buf offset with
  | error fault => exact used
  | ok header =>
    have body := used.readBody header.type (buf.take (offset + header.size.toNat))
      (offset + FrameLayout.bodyOffset)
    simp only
    by_cases complete : Bytes.covers (offset + header.size.toNat) buf = true
    · rw [if_pos complete]
      generalize p.readBody header.type _ _ = result at body ⊢
      rcases result with ⟨fault | x, q⟩
      · exact body
      · exact body.takeFrame
    · obtain ⟨fault, refused⟩ := truncated_eq_error (Nat × HeldBody) header.size buf offset
      rw [if_neg complete, refused]
      exact used

theorem readLazyFrame (used : p.Used) (buf : Bytes) (offset : Nat) :
    (p.readLazyFrame buf offset).2.Used := by
  rw [readLazyFrame_eq]
  cases LazyFrame.read buf offset with
  | error fault => exact used
  | ok x => exact used.takeLazyFrame

theorem decodeBody (used : p.Used) (f : LazyFrame) : (p.decodeBody f).2.Used := by
  unfold ConnectionPools.decodeBody
  cases f.body? with
  | some body => exact used
  | none =>
    cases f.view with
    | error fault => exact used
    | ok view =>
      cases f.type? with
      | none => exact used
      | some type =>
        have body := used.readBody type view FrameLayout.bodyOffset
        simp only
        generalize p.readBody type view FrameLayout.bodyOffset = result at body ⊢
        rcases result with ⟨fault | x, q⟩ <;> exact body

theorem next (used : p.Used) (s : FrameSplitter) : (s.next p).2.1.Used := by
  have cases := s.next_cases p
  generalize s.next p = result at cases ⊢
  obtain ⟨answer, q, t⟩ := result
  rcases cases with ⟨-, -, rfl, -⟩ | ⟨-, -, rfl, -⟩ | ⟨piece, -, -, ⟨_, -, -, rfl⟩ | ⟨_, -, -, rfl⟩⟩
  · exact used
  · exact used
  · exact used.takeLazyFrame
  · exact used

end Used

/-- Whatever a connection does keeps it so that every instance taken from its pools is blank. -/
structure HandsOutBlank (p : ConnectionPools) : Prop where
  frame : p.takeFrame.1 = ⟨some Frame.blank, true⟩
  lazyFrame : p.takeLazyFrame.1 = ⟨some LazyFrame.blank, true⟩
  error : p.takeError.1 = ⟨some ErrorResponse.blank, true⟩
  readBody : ∀ type buf offset, (p.readBody type buf offset).2.Used
  readFrame : ∀ buf offset, (p.readFrame buf offset).2.Used
  readLazyFrame : ∀ buf offset, (p.readLazyFrame buf offset).2.Used
  decodeBody : ∀ f, (p.decodeBody f).2.Used
  next : ∀ s : FrameSplitter, (s.next p).2.1.Used
  freeFrame : ∀ h, (p.freeFrame h).2.Used
  freeLazyFrame : ∀ h, (p.freeLazyFrame h).2.Used
  freeError : ∀ h, (p.freeError h).2.Used
  freeBody : ∀ b?, (p.freeBody? b?).Used

theorem Used.handsOutBlank {p : ConnectionPools} (used : p.Used) : p.HandsOutBlank where
  frame := used.clears.frames.get.1
  lazyFrame := used.clears.lazyFrames.get.1
  error := used.clears.errors.get.1
  readBody := used.readBody
  readFrame := used.readFrame
  readLazyFrame := used.readLazyFrame
  decodeBody := used.decodeBody
  next := used.next
  freeFrame := used.freeFrame
  freeLazyFrame := used.freeLazyFrame
  freeError := used.freeError
  freeBody := used.freeBody?

end ConnectionPools

namespace Exchange

/-- **Recycling is in order and leaks nothing,** whatever is done with any number of pools and
handles, and whatever a connection does with its own pools. -/
theorem recycles_and_forgets {pools : List (Pool α)} (new : ∀ p ∈ pools, p.New)
    (actions : List (Action α)) :
    Recycles pools actions ((opening (pools.map Pool.numbered)).runNumbered 0 actions)
        ((opening (pools.map Pool.numbered)).historyNumbered 0 actions) ∧
      (∀ (blank : Nat → α) others, (∀ i p, pools[i]? = some p → Pool.Clears (blank i) p) →
        actions.map Action.shape = others.map Action.shape →
        ((opening pools).history actions).filterMap Event.handed? =
          ((opening pools).history others).filterMap Event.handed?) ∧
      ∀ p : ConnectionPools, p.Used → p.HandsOutBlank :=
  ⟨recycles new actions, fun _ _ clears same => handed_eq clears same, fun _ used =>
    used.handsOutBlank⟩

/-- What nobody counts comes back first, is taken again, and then given back to another pool. -/
def queueing : List (Action Nat) :=
  [.get 0, .make 7, .set 0 5, .free 0 1, .free 0 0, .get 0, .free 1 2, .get 1]

/-- A connection that has given back an error response with a message. -/
def chatty : ConnectionPools :=
  (ConnectionPools.empty.takeError.2.freeError
    ⟨some { ErrorResponse.blank with message := "private" }, true⟩).2

theorem recycles_and_forgets_queueing :
    (∀ p ∈ pair, p.New) ∧
      recycled 0 ((opening (pair.map Pool.numbered)).historyNumbered 0 queueing) = [⟨1, 7⟩] ∧
      recycled 1 ((opening (pair.map Pool.numbered)).historyNumbered 0 queueing) = [⟨1, 0⟩] ∧
      (∀ k, ((opening (pair.map Pool.numbered)).runNumbered 0 queueing).places k ≤ 1) ∧
      chatty.errors.idle.length = 1 ∧
      chatty.takeError.1 = ⟨some ErrorResponse.blank, true⟩ := by
  obtain ⟨ordered, -, blank⟩ := recycles_and_forgets new_pair queueing
  have used : chatty.Used := ConnectionPools.Used.new.takeError.freeError _
  refine ⟨new_pair, ?_, ?_, ordered.apart, rfl, (blank chatty used).error⟩
  · rfl
  · rfl

end Exchange

end CallWire
