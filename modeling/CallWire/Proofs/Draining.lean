import CallWire.Proofs.Sharing.Turns

/-!
# Draining is exact

Granting credits sends as many of the frames that wait as the credits then cover, the oldest first,
and takes one credit for each (`Response.onDrain_drains`). Where nobody else has a hand in the
credits, frames wait for nothing but credit: none is left while they do (`Response.Frugal`).

* `release_covered`, `release_refused`: the frames that wait, if the outlet takes all that are due,
  and if it closes before;
* `Frugal.step`: no action leaves a credit that a waiting frame could use.
-/

namespace CallWire

/-- The outlet takes `n` more frames. -/
def Outlet.HasRoom (o : Outlet) (n : Nat) : Prop := ∀ k, o.room? = some k → n ≤ k

namespace Outlet.HasRoom

variable {o next : Outlet} {n : Nat}

theorem isOpen (room : o.HasRoom (n + 1)) : o.isOpen = true := by
  cases closed : o.isOpen with
  | true => rfl
  | false =>
    have full : o.room? = some 0 := by simpa [Outlet.isOpen] using closed
    exact absurd (room 0 full) (Nat.not_succ_le_zero n)

/-- An outlet that has taken one frame takes one less. -/
theorem of_less (room : o.HasRoom (n + 1)) (less : next.room? = o.room?.map (· - 1)) :
    next.HasRoom n := by
  intro k here
  rw [less] at here
  obtain ⟨j, before, rfl⟩ := Option.map_eq_some_iff.mp here
  exact Nat.le_sub_one_of_lt (room j before)

end Outlet.HasRoom

namespace Response

variable {r s : Response} {c : Credits} {frames : List Frame}

theorem transmit_of_open (isOpen : r.outlet.isOpen = true) (f : Frame) :
    ∃ o, r.transmit f = (.ok (), { r with outlet := o }) ∧ o.sent = r.outlet.sent ++ [f] ∧
      o.room? = r.outlet.room?.map (· - 1) := by
  have put : r.outlet.put? f = some _ := Outlet.put?_eq_some_iff.mpr ⟨isOpen, rfl⟩
  refine ⟨_, ?_, Outlet.sent_put? put, rfl⟩
  rw [transmit, put]

/-- As many frames go out as there are credits for, if the outlet takes them. -/
theorem release_covered (metered : r.credits? = some c) {n : Nat}
    (due : n = min frames.length c.available.toNat) (room : r.outlet.HasRoom n) (sent : Nat) :
    ∃ d o, r.release sent frames =
        (.ok (sent + n), { r with credits? := some d, backlog := frames.drop n, outlet := o }) ∧
      d.available.toNat + n = c.available.toNat ∧ o.sent = r.outlet.sent ++ frames.take n := by
  induction frames generalizing r c n sent with
  | nil =>
    have zero : n = 0 := by rw [due, List.length_nil, Nat.zero_min]
    subst zero
    refine ⟨c, r.outlet, ?_, rfl, (List.append_nil _).symm⟩
    rw [release, List.drop_nil, ← metered]
    rfl
  | cons f rest ih =>
    cases taken : c.take? with
    | none =>
      have zero : n = 0 := by
        rw [due, Credits.take?_eq_none_iff.mp taken]
        exact Nat.min_zero _
      subst zero
      refine ⟨c, r.outlet, ?_, rfl, (List.append_nil _).symm⟩
      rw [release_of_none (by rw [metered, Option.bind_some, taken]), List.drop_zero, ← metered]
      rfl
    | some d =>
      have one := Credits.toNat_take? taken
      obtain ⟨m, rfl⟩ : ∃ m, n = m + 1 := by
        rw [List.length_cons] at due
        exact ⟨n - 1, by omega⟩
      obtain ⟨o, sends, grown, left⟩ :=
        transmit_of_open (r := { r with credits? := some d, backlog := rest }) room.isOpen f
      have fewer := room.of_less left
      have rest_due : m = min rest.length d.available.toNat := by
        rw [List.length_cons] at due
        omega
      obtain ⟨e, p, released, count, all⟩ :=
        ih (r := { r with credits? := some d, backlog := rest, outlet := o }) rfl rest_due fewer
          (sent + 1)
      refine ⟨e, p, ?_, by omega, ?_⟩
      · rw [release_of_sent (by rw [metered, Option.bind_some, taken]) sends, released,
          Nat.add_right_comm, Nat.add_assoc]
        rfl
      · rw [all, grown, List.append_assoc]
        rfl

/-- If the outlet closes before all that are due have gone out, the others are dropped. -/
theorem release_refused (metered : r.credits? = some c) {k : Nat}
    (room : r.outlet.room? = some k) (few : k < min frames.length c.available.toNat) (sent : Nat) :
    (r.release sent frames).1 = .error (.refused .channelClosed) ∧
      (r.release sent frames).2.outlet.sent = r.outlet.sent ++ frames.take k ∧
      (r.release sent frames).2.backlog = [] ∧
      (r.release sent frames).2.state = (if r.state.isTerminal then r.state else .error) ∧
      ∃ d, (r.release sent frames).2.credits? = some d ∧
        d.available.toNat + (k + 1) = c.available.toNat := by
  induction frames generalizing r c k sent with
  | nil => exact absurd few (by simp)
  | cons f rest ih =>
    obtain ⟨d, taken⟩ : ∃ d, c.take? = some d := by
      refine Option.ne_none_iff_exists'.mp fun exhausted => ?_
      rw [Credits.take?_eq_none_iff.mp exhausted] at few
      exact absurd few (by simp)
    have one := Credits.toNat_take? taken
    have next : r.credits?.bind Credits.take? = some d := by rw [metered, Option.bind_some, taken]
    cases k with
    | zero =>
      have closed : r.outlet.isOpen = false := by simp [Outlet.isOpen, room]
      have refused : { r with credits? := some d, backlog := rest }.transmit f =
          (.error (.refused .channelClosed), { r with credits? := some d, backlog := rest }) := by
        rw [transmit, Outlet.put?_eq_none_iff.mpr closed]
      rw [release_of_refused next refused, failTransport_eq]
      refine ⟨rfl, ?_, (keeps_finish _).backlog, (keeps_finish _).state, d, credits?_finish _, one⟩
      rw [(keeps_finish _).sent, List.take_zero, List.append_nil]
      rfl
    | succ k =>
      have isOpen : r.outlet.isOpen = true := by simp [Outlet.isOpen, room]
      obtain ⟨o, sends, grown, left⟩ :=
        transmit_of_open (r := { r with credits? := some d, backlog := rest }) isOpen f
      have fewer : o.room? = some k := by rw [left, room]; rfl
      have rest_few : k < min rest.length d.available.toNat := by
        rw [List.length_cons] at few
        omega
      obtain ⟨answer, all, empty, state, e, left, count⟩ :=
        ih (r := { r with credits? := some d, backlog := rest, outlet := o }) rfl fewer rest_few
          (sent + 1)
      rw [release_of_sent next sends]
      refine ⟨answer, ?_, empty, state, e, left, by omega⟩
      rw [all, grown, List.append_assoc]
      rfl

/-- How many of the frames that wait are sent when credits are granted. -/
def due (r : Response) (c : Credits) (granted : UInt32) : Nat :=
  min r.backlog.length (min (c.available.toNat + granted.toNat) Credits.limit)

/-- What granting credits comes to, if `c` are left. -/
structure Drains (r : Response) (c : Credits) (granted : UInt32) (result : Answer Nat × Response) :
    Prop where
  /-- If the outlet takes all frames that are due, they are sent in order and paid for, and then
  nothing waits or no credit is left. -/
  covered : r.outlet.HasRoom (r.due c granted) →
    result.1 = .ok (r.due c granted) ∧
      result.2.outlet.sent = r.outlet.sent ++ r.backlog.take (r.due c granted) ∧
      result.2.backlog = r.backlog.drop (r.due c granted) ∧
      ∃ d, result.2.credits? = some d ∧
        d.available.toNat =
          min (c.available.toNat + granted.toNat) Credits.limit - r.due c granted ∧
        (result.2.backlog = [] ∨ d.isExhausted = true)
  /-- If it closes before, no frame goes on waiting and the response has ended. -/
  refused : ∀ k, r.outlet.room? = some k → k < r.due c granted →
    result.1 = .error (.refused .channelClosed) ∧
      result.2.outlet.sent = r.outlet.sent ++ r.backlog.take k ∧
      result.2.backlog = [] ∧
      result.2.state = (if r.state = .done then .done else .error) ∧
      ∃ d, result.2.credits? = some d ∧ d.available.toNat + (k + 1) =
        min (c.available.toNat + granted.toNat) Credits.limit

/-- **Granting credits sends just what they cover.** -/
theorem onDrain_drains (metered : r.credits? = some c) (granted : UInt32) :
    r.Drains c granted (r.onDrain granted) := by
  have total := c.toNat_grant granted
  have drains : r.onDrain granted =
      { r with credits? := some (c.grant granted) }.release 0 r.backlog := by
    rw [onDrain, metered]
  constructor
  · intro room
    obtain ⟨d, o, released, count, all⟩ :=
      release_covered (r := { r with credits? := some (c.grant granted) }) rfl
        (n := r.due c granted) (by rw [due, total]) room 0
    rw [drains, released, Nat.zero_add]
    refine ⟨rfl, all, rfl, d, rfl, by omega, ?_⟩
    by_cases short : r.backlog.length ≤ r.due c granted
    · exact Or.inl (List.drop_eq_nil_iff.mpr short)
    · have spent : d.available.toNat = 0 := by
        rw [due] at short count
        omega
      have zero : d.available = 0 := UInt32.toNat_inj.mp spent
      exact Or.inr (by simp [Credits.isExhausted, zero])
  · intro k room few
    obtain ⟨answer, all, empty, state, d, left, count⟩ :=
      release_refused (r := { r with credits? := some (c.grant granted) }) rfl room
        (by rwa [total]) 0
    rw [drains]
    refine ⟨answer, all, empty, state.trans ?_, d, left, count.trans total⟩
    cases r.state <;> rfl

/-- The response has credits, and nothing waits while one of them is left. -/
def Frugal (r : Response) : Prop :=
  ∃ c, r.credits? = some c ∧ (r.backlog ≠ [] → c.available = 0)

namespace Frugal

theorem of_same (frugal : r.Frugal) (credits : s.credits? = r.credits?)
    (backlog : s.backlog = r.backlog) : s.Frugal := by
  rwa [Frugal, credits, backlog]

theorem of_nil (metered : s.credits? ≠ none) (empty : s.backlog = []) : s.Frugal := by
  obtain ⟨c, left⟩ := Option.ne_none_iff_exists'.mp metered
  exact ⟨c, left, absurd empty⟩

theorem metered (frugal : r.Frugal) : r.credits? ≠ none := by
  obtain ⟨c, left, -⟩ := frugal
  rw [left]
  exact nofun

/-- Writing is possible just while a credit is left. -/
theorem isWritable_iff (frugal : r.Frugal) (left : r.credits? = some c) :
    r.isWritable = true ↔ 0 < c.available := by
  obtain ⟨d, same, waits⟩ := frugal
  cases left.symm.trans same
  have positive : 0 < c.available ↔ c.available ≠ 0 := by
    rw [UInt32.lt_iff_toNat_lt, Ne, ← UInt32.toNat_inj]
    exact Nat.pos_iff_ne_zero
  rw [isWritable, left, positive]
  by_cases empty : r.backlog = []
  · simp [empty, Credits.isExhausted]
  · simp [empty, waits empty]

theorem transmit (frugal : r.Frugal) (f : Frame) : (r.transmit f).2.Frugal := by
  rcases transmit_cases r f with ⟨-, o, sends, -, -⟩ | ⟨-, refused⟩
  · rw [sends]
    exact frugal
  · rw [refused]
    exact frugal

theorem enqueue (frugal : r.Frugal) (f : Frame) : (r.enqueue f).2.Frugal := by
  obtain ⟨c, left, waits⟩ := frugal
  by_cases empty : r.backlog = []
  · cases taken : c.take? with
    | none =>
      rw [enqueue_of_waits (by rw [left]; exact nofun) f (Or.inr (by rw [left]; exact taken))]
      exact ⟨c, left, fun _ => Credits.take?_eq_none_iff.mp taken⟩
    | some d =>
      have goes : r.enqueue f = { r with credits? := some d }.transmit f := by
        simp [Response.enqueue, left, empty, taken]
      have paid : Frugal { r with credits? := some d } := ⟨d, rfl, absurd empty⟩
      rw [goes]
      exact paid.transmit f
  · rw [enqueue_of_waits (by rw [left]; exact nofun) f (Or.inl empty)]
    exact ⟨c, left, fun _ => waits empty⟩

theorem enqueueAll (frugal : r.Frugal) (frames : List Frame) : (r.enqueueAll frames).2.Frugal := by
  induction frames generalizing r with
  | nil => exact frugal
  | cons f rest ih =>
    have first := frugal.enqueue f
    rw [enqueueAll_cons]
    generalize r.enqueue f = result at first ⊢
    rcases result with ⟨fault | _, t⟩
    · exact first
    · exact ih first

theorem finish (frugal : r.Frugal) : r.finish.Frugal :=
  frugal.of_same (credits?_finish r) (keeps_finish r).backlog

theorem failTransport (metered : r.credits? ≠ none) : r.failTransport.Frugal :=
  .of_nil (by rwa [credits?_failTransport]) (keeps_finish r.cutOff).backlog

theorem sendParts (frugal : r.Frugal) (parts : List Bytes) (isLast : Bool) :
    (r.sendParts parts isLast).2.Frugal := by
  unfold Response.sendParts
  cases r.ensureOpen "send call response frame" with
  | error fault => exact frugal
  | ok _ =>
    simp only
    cases r.fragment parts isLast (r.state = .initial) with
    | error fault => exact frugal
    | ok frames =>
      have begun : r.begun.Frugal := by
        rw [begun_eq]
        exact frugal
      have all := begun.enqueueAll frames
      have begins : (if r.state = .initial then { r with state := .started }.noteSend else r) =
          r.begun := rfl
      simp only [begins]
      generalize r.begun.enqueueAll frames = result at all ⊢
      rcases result with ⟨fault | _, t⟩
      · exact failTransport all.metered
      · cases isLast with
        | true => exact all
        | false => exact all

theorem onDrain (frugal : r.Frugal) (granted : UInt32) : (r.onDrain granted).2.Frugal := by
  obtain ⟨c, left, -⟩ := frugal
  have drains := onDrain_drains left granted
  by_cases room : r.outlet.HasRoom (r.due c granted)
  · obtain ⟨-, -, -, d, lowered, -, rest⟩ := drains.covered room
    refine ⟨d, lowered, fun waits => ?_⟩
    rcases rest with empty | spent
    · exact absurd empty waits
    · simpa [Credits.isExhausted] using spent
  · simp only [Outlet.HasRoom, Classical.not_forall, Nat.not_le] at room
    obtain ⟨k, here, few⟩ := room
    obtain ⟨-, -, empty, -, d, lowered, -⟩ := drains.refused k here few
    exact ⟨d, lowered, absurd empty⟩

theorem sendError (frugal : r.Frugal) (code : ErrorCode) (message : String) :
    (r.sendError code message).2.Frugal := by
  have sent := errorSent r code message
  have credits := credits?_sendError r code message
  have metered := frugal.metered
  rw [← credits] at metered
  generalize r.sendError code message = result at sent credits metered
  cases sent with
  | ended terminal => exact frugal
  | sent live isOpen taken => exact .of_nil metered (keeps_finish _).backlog
  | lost live closed => exact .of_nil metered (keeps_finish _).backlog

end Frugal

/-- **No action leaves a credit that a waiting frame could use,** unless others have a hand in the
credits. -/
theorem Frugal.step (frugal : r.Frugal) {a : Action} (own : ∀ c, a ≠ .setCredits c) :
    (r.step a).2.Frugal := by
  cases a with
  | setOk ok =>
    show (r.setOk ok).2.Frugal
    unfold setOk
    split
    · exact frugal
    · exact frugal
  | sendParts parts isLast => exact frugal.sendParts parts isLast
  | sendError code message => exact frugal.sendError code message
  | onDrain granted => exact frugal.onDrain granted
  | setCredits c => exact absurd rfl (own c)
  | setSpan span => exact frugal
  | finish => exact frugal.finish
  | closeOutletAfter n => exact frugal

theorem frugal_run (frugal : r.Frugal) {actions : List Action}
    (own : ∀ c, .setCredits c ∉ actions) : (r.run actions).Frugal := by
  induction actions generalizing r with
  | nil => exact frugal
  | cons a rest ih =>
    refine ih (frugal.step fun c same => own c ?_) fun c there => own c (.tail _ there)
    rw [same]
    exact .head _

end Response

namespace StreamingResponse

variable {s : StreamingResponse}

/-- What every action on a response keeps, every action on a streaming one keeps, if it has to do
with neither the status nor what the observer is told. -/
theorem core_kept {Kept : Response → Prop}
    (acts : ∀ r a, (∀ c, a ≠ .setCredits c) → Kept r → Kept (r.step a).2)
    (same : ∀ r code events, Kept r → Kept { r with code, events }) (kept : Kept s.core)
    {a : Action} (own : ∀ c, a ≠ .shareCredits c) : Kept (s.step a).2.core := by
  have handled {r : Response} (kept : Kept r) (answer : Answer Unit) (events : List ArgEvent) :
      Kept (handleAll r answer events).2 := by
    induction events generalizing r answer with
    | nil => exact kept
    | cons e rest ih =>
      apply ih
      cases e with
      | parts chunks isLast => exact acts r (.sendParts chunks isLast) nofun kept
      | error e => exact same r r.code _ kept
      | finish => exact acts r .finish nofun kept
  have feeds (feeds : a.feeds = true) : Kept (s.step a).2.core := by
    rw [s.step_eq_of_fed? feeds]
    cases fed : s.fed? a with
    | none => exact kept
    | some t =>
      obtain ⟨code, only⟩ := core_of_fed? fed
      have begun : Kept t.core := by
        rw [only]
        exact same s.core code s.core.events kept
      show Kept (settle _).core
      rw [settle_core]
      exact handled begun _ _
  cases a with
  | setOk | write | endArg | send => exact feeds rfl
  | sendError code message =>
    show Kept (s.sendError code message).2.core
    rcases s.core_sendError code message with only | only
    · rw [only]
      exact kept
    · rw [only]
      exact acts s.core (.sendError code message) nofun kept
  | onDrain granted =>
    show Kept (settle _).core
    rw [settle_core]
    exact acts s.core (.onDrain granted) nofun kept
  | setSpan span => exact acts s.core (.setSpan span) nofun kept
  | closeOutletAfter n => exact acts s.core (.closeOutletAfter n) nofun kept
  | shareCredits c => exact absurd rfl (own c)

theorem frugal_run (frugal : s.core.Frugal) {actions : List Action}
    (own : ∀ c, .shareCredits c ∉ actions) : (s.run actions).core.Frugal := by
  induction actions generalizing s with
  | nil => exact frugal
  | cons a rest ih =>
    refine ih (core_kept (fun r a own frugal => frugal.step own) ?_ frugal ?_) fun c there =>
      own c (.tail _ there)
    · exact fun r code events frugal => frugal
    · intro c same
      refine own c ?_
      rw [same]
      exact .head _

end StreamingResponse

namespace Response

/-- What granting credits to `r` comes to, and what waits meanwhile if nobody else has a hand in
them. -/
structure DrainsWell (r : Response) (own : Prop) (drain : UInt32 → Answer Nat × Response) :
    Prop where
  drains : ∀ c granted, r.credits? = some c → r.Drains c granted (drain granted)
  idle : own → ∃ c, r.credits? = some c ∧ (r.backlog ≠ [] → c.available = 0) ∧
    (r.isWritable = true ↔ 0 < c.available)

/-- **Draining is exact and leaves no credit idle,** whatever has been done before with a response
or a streaming one. -/
theorem run_drainsWell {id : UInt32} {config : ResponseConfig} {start : Response}
    {stream : StreamingResponse} (made : make id config = .ok start)
    (streams : StreamingResponse.make id config = .ok stream) (actions : List Action)
    (calls : List StreamingResponse.Action) :
    (start.run actions).DrainsWell
        (config.initialCredits? ≠ none ∧ ∀ c, .setCredits c ∉ actions)
        (start.run actions).onDrain ∧
      (stream.run calls).core.DrainsWell
        (config.initialCredits? ≠ none ∧ ∀ c, .shareCredits c ∉ calls)
        (fun granted => (((stream.run calls).onDrain granted).1,
          ((stream.run calls).onDrain granted).2.core)) := by
  obtain ⟨-, rfl⟩ := make_eq_ok_iff.mp made
  obtain ⟨-, rfl⟩ := StreamingResponse.make_eq_ok_iff.mp streams
  have first (limited : config.initialCredits? ≠ none) : (fresh id config).Frugal := by
    refine .of_nil ?_ rfl
    rwa [fresh, Ne, Option.map_eq_none_iff]
  have idle {r : Response} (frugal : r.Frugal) : ∃ c, r.credits? = some c ∧
      (r.backlog ≠ [] → c.available = 0) ∧ (r.isWritable = true ↔ 0 < c.available) := by
    obtain ⟨c, left, waits⟩ := frugal
    exact ⟨c, left, waits, Frugal.isWritable_iff ⟨c, left, waits⟩ left⟩
  refine ⟨⟨fun c granted left => onDrain_drains left granted, ?_⟩, ⟨?_, ?_⟩⟩
  · rintro ⟨limited, own⟩
    exact idle (frugal_run (first limited) own)
  · intro c granted left
    rw [StreamingResponse.onDrain, StreamingResponse.settle_core]
    exact onDrain_drains left granted
  · rintro ⟨limited, own⟩
    exact idle (StreamingResponse.frugal_run (first limited) own)

/-- A response with one credit. -/
def thrifty : Response := fresh 7 ⟨64, .empty, some 1⟩

/-- Three parts of a call. -/
def threeParts : List Action :=
  [.sendParts [[1]] false, .sendParts [[2]] false, .sendParts [[3]] true]

/-- The last two parts wait, and go out when credits are granted, unless the outlet has closed. -/
theorem run_drainsWell_thrifty : make 7 ⟨64, .empty, some 1⟩ = .ok thrifty ∧
    StreamingResponse.make 7 ⟨64, .empty, some 1⟩ = .ok ⟨thrifty, .empty, []⟩ ∧
    (thrifty.run threeParts).backlog.length = 2 ∧ (thrifty.run threeParts).isWritable = false ∧
    ((thrifty.run threeParts).onDrain 1).1 = .ok 1 ∧
    ((thrifty.run threeParts).onDrain 5).1 = .ok 2 ∧
    ((thrifty.run (threeParts ++ [.closeOutletAfter 0])).onDrain 5).1 =
      .error (.refused .channelClosed) := by
  have made : make 7 ⟨64, .empty, some 1⟩ = .ok thrifty := rfl
  have streams : StreamingResponse.make 7 ⟨64, .empty, some 1⟩ = .ok ⟨thrifty, .empty, []⟩ := rfl
  have left : (thrifty.run threeParts).credits? = some ⟨0⟩ := by decide +kernel
  have room : (thrifty.run threeParts).outlet.room? = none := by decide +kernel
  have one : (thrifty.run threeParts).due ⟨0⟩ 1 = 1 := by decide +kernel
  have two : (thrifty.run threeParts).due ⟨0⟩ 5 = 2 := by decide +kernel
  have waits := (run_drainsWell made streams threeParts []).1
  have closed := (run_drainsWell made streams (threeParts ++ [.closeOutletAfter 0]) []).1
  refine ⟨made, streams, by decide +kernel, by decide +kernel, ?_, ?_, ?_⟩
  · rw [((waits.drains _ 1 left).covered fun k here => nomatch room.symm.trans here).1, one]
  · rw [((waits.drains _ 5 left).covered fun k here => nomatch room.symm.trans here).1, two]
  · exact ((closed.drains ⟨0⟩ 5 (by decide +kernel)).refused 0 (by decide +kernel)
      (by decide +kernel)).1

end Response

end CallWire
