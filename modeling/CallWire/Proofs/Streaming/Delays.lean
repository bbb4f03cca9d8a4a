import CallWire.Proofs.Sharing.Interruptions

/-!
# Flow control delays frames and changes nothing else

Two streaming responses with the same settings, one of which needs credits, are called the same as
long as the outlet is open. Credits may be granted at any time, and others who share them may leave
any count of them, also in the middle of a call. Every call is answered the same, and what the one
response has sent, the other has sent or holds back for credit (`run_delayed`).
-/

namespace CallWire.StreamingResponse

open Response (fresh sent_unpaced)

/-- The calls that are not about credits only. -/
def calls (actions : List Action) : List Action := actions.filter fun a => !a.meters

/-- Those calls and what was answered. -/
def answers (log : List (Action × Answer Unit)) : List (Action × Answer Unit) :=
  log.filter fun e => !e.1.meters

/-- From `s` to `t`, the calls were made and answered as logged. Others who share the credits may
have interrupted each of them. -/
inductive Runs : StreamingResponse → List Action → List (Action × Answer Unit) →
    StreamingResponse → Prop where
  | nil (s : StreamingResponse) : Runs s [] [] s
  | cons {s t u : StreamingResponse} {a : Action} {answer : Answer Unit} {actions : List Action}
      {log : List (Action × Answer Unit)} (first : s.Amid a (answer, t))
      (rest : Runs t actions log u) : Runs s (a :: actions) ((a, answer) :: log) u

variable {s t : StreamingResponse} {a : Action} {actions : List Action} {answer : Answer Unit}
  {log : List (Action × Answer Unit)}

theorem calls_cons_of_meters (meters : a.meters = true) : calls (a :: actions) = calls actions :=
  List.filter_cons_of_neg (by simp [meters])

theorem calls_cons_of_plain (plain : a.meters = false) :
    calls (a :: actions) = a :: calls actions :=
  List.filter_cons_of_pos (by simp [plain])

theorem answers_cons_of_meters (meters : a.meters = true) :
    answers ((a, answer) :: log) = answers log :=
  List.filter_cons_of_neg (by simp [meters])

theorem answers_cons_of_plain (plain : a.meters = false) :
    answers ((a, answer) :: log) = (a, answer) :: answers log :=
  List.filter_cons_of_pos (by simp [plain])

/-- Nobody has to interrupt the calls. -/
theorem runs_alone (s : StreamingResponse) (actions : List Action) :
    s.Runs actions (history s actions) (s.run actions) := by
  induction actions generalizing s with
  | nil => exact .nil s
  | cons a rest ih => exact .cons .alone (ih (s.step a).2)

/-- **With credits, calls come to what they come to without,** whoever interrupts them. -/
theorem Runs.unpaced (runs : s.Runs actions log t) (steady : s.core.Steady)
    (ordinary : ∀ a ∈ actions, Ordinary a) :
    t.unpaced = s.unpaced.run (calls actions) ∧ answers log = history s.unpaced (calls actions) ∧
      t.core.Steady := by
  induction runs with
  | nil => exact ⟨rfl, rfl, steady⟩
  | @cons s t u a answer rest log first _ ih =>
    obtain ⟨here, later⟩ := List.forall_mem_cons.mp ordinary
    cases meters : a.meters with
    | true =>
      obtain ⟨same, after⟩ := first.unnoticed steady meters
      rw [calls_cons_of_meters meters, answers_cons_of_meters meters, ← same]
      exact ih after later
    | false =>
      obtain ⟨same, after⟩ := first.alike steady here meters
      obtain ⟨last, logged, kept⟩ := ih after later
      rw [calls_cons_of_plain meters, answers_cons_of_plain meters, logged, history, same]
      refine ⟨?_, rfl, kept⟩
      show u.unpaced = (s.unpaced.step a).2.run (calls rest)
      rw [same]
      exact last

/-- A call that leaves credits as they are, or grants them. -/
def Unshared (a : Action) : Prop := Ordinary a ∧ ∀ c, a ≠ .shareCredits c

/-- Where frames need no credit, granting it comes to nothing. -/
theorem unpaced_run (steady : s.core.Steady) (unshared : ∀ a ∈ actions, Unshared a) :
    s.unpaced.run actions = s.unpaced.run (calls actions) ∧
      answers (history s.unpaced actions) = history s.unpaced (calls actions) := by
  induction actions generalizing s with
  | nil => exact ⟨rfl, rfl⟩
  | cons a rest ih =>
    obtain ⟨here, later⟩ := List.forall_mem_cons.mp unshared
    cases meters : a.meters with
    | true =>
      have idle : (s.unpaced.step a).2 = s.unpaced := by
        cases a with
        | onDrain granted => exact if_neg steady.sound
        | shareCredits c => exact absurd rfl (here.2 c)
        | setOk | write | endArg | send | setSpan | sendError | closeOutletAfter => cases meters
      rw [calls_cons_of_meters meters, history, answers_cons_of_meters meters, idle]
      obtain ⟨ran, logged⟩ := ih steady later
      refine ⟨?_, logged⟩
      show (s.unpaced.step a).2.run rest = _
      rw [idle]
      exact ran
    | false =>
      obtain ⟨same, after⟩ := step_unpaced steady here.1 meters
      obtain ⟨ran, logged⟩ := ih after later
      rw [calls_cons_of_plain meters, history, answers_cons_of_plain meters, history, same, logged]
      refine ⟨?_, rfl⟩
      show (s.unpaced.step a).2.run rest = (s.unpaced.step a).2.run (calls rest)
      rw [same]
      exact ran

/-- **Flow control delays frames and changes nothing else,** whenever credits are granted, whatever
others who share them leave, and however often they interrupt the calls. -/
theorem run_delayed {id : UInt32} {config : ResponseConfig} {free paced : StreamingResponse}
    (unmetered : make id { config with initialCredits? := none } = .ok free)
    (metered : make id config = .ok paced) {freeCalls pacedCalls : List Action}
    (same : calls freeCalls = calls pacedCalls) (unshared : ∀ a ∈ freeCalls, Unshared a)
    (ordinary : ∀ a ∈ pacedCalls, Ordinary a) :
    paced.Runs pacedCalls (history paced pacedCalls) (paced.run pacedCalls) ∧
      ∀ log last, paced.Runs pacedCalls log last →
        answers log = answers (history free freeCalls) ∧
        Delayed (free.run freeCalls) last ∧
        ∀ code message, (free.run freeCalls).core.state.isTerminal = false →
          FailAlike (free.run freeCalls) last
            ((free.run freeCalls).step (.sendError code message))
            (last.step (.sendError code message)) := by
  refine ⟨runs_alone paced pacedCalls, ?_⟩
  intro log last runs
  obtain ⟨unpaced, steady⟩ := unpaced_make metered
  obtain rfl : free = paced.unpaced := Except.ok.inj (unmetered.symm.trans unpaced)
  obtain ⟨ran, logged⟩ := unpaced_run steady unshared
  obtain ⟨kept, told, after⟩ := runs.unpaced steady ordinary
  have queue : last.queue = [] := by
    have settled := run_settled (settled_make unmetered).1 (calls pacedCalls)
    rw [← kept] at settled
    exact settled.1.queue
  rw [same] at ran logged
  rw [ran, logged, told, ← kept]
  refine ⟨rfl, ⟨rfl, rfl, rfl, sent_unpaced _⟩, ?_⟩
  intro code message live
  exact failAlike_unpaced after live queue code message

/-- A write that takes two frames. -/
def longWrite : Action := .write .arg2 (List.replicate 100 1)

/-- Calls without granted credits, one of which is rejected. -/
def freeWrites : List Action :=
  [.setOk false, longWrite, .endArg .arg2, .write .arg2 [2], .write .arg3 (List.replicate 200 3)]

/-- The calls behind the first write, while credits are granted that are not enough. -/
def meteredWrites : List Action :=
  [.onDrain 2, .endArg .arg2, .shareCredits ⟨0⟩, .write .arg2 [2], .onDrain 1,
    .write .arg3 (List.replicate 200 3), .shareCredits ⟨2⟩, .onDrain 0]

/-- A response with two credits, one of which it has used for its status. -/
def statusSent : StreamingResponse :=
  (step ⟨fresh 7 ⟨64, .empty, some 2⟩, .empty, []⟩ (.setOk false)).2

/-- The first write. Others take the last credit while a frame of it is about to go out, and are
granted more when the next has been parked. -/
def meddled : Sharer :=
  statusSent.callAmid longWrite ⟨2⟩
    ([.own, .own, .others ⟨0⟩, .own, .own, .others ⟨9⟩] ++ List.replicate 4 .own)

theorem run_delayed_meteredWrites : ∃ free paced log last,
    make 7 ⟨64, .empty, none⟩ = .ok free ∧ make 7 ⟨64, .empty, some 2⟩ = .ok paced ∧
    calls freeWrites = calls (.setOk false :: longWrite :: meteredWrites) ∧
    (∀ a ∈ freeWrites, Unshared a) ∧
    (∀ a ∈ .setOk false :: longWrite :: meteredWrites, Ordinary a) ∧
    meddled.response.core.credits? = some ⟨9⟩ ∧ meddled.response.core.backlog.length = 1 ∧
    paced.Runs (.setOk false :: longWrite :: meteredWrites) log last ∧
    (free.run freeWrites).core.state.isTerminal = false ∧ last.core.backlog ≠ [] ∧
    answers log = answers (history free freeWrites) ∧ Delayed (free.run freeWrites) last ∧
    FailAlike (free.run freeWrites) last
      ((free.run freeWrites).step (.sendError .busy "late"))
      (last.step (.sendError .busy "late")) := by
  have same : calls freeWrites = calls (.setOk false :: longWrite :: meteredWrites) := rfl
  have unshared : ∀ a ∈ freeWrites, Unshared a := by
    simp [freeWrites, longWrite, Unshared, Ordinary]
  have ordinary : ∀ a ∈ .setOk false :: longWrite :: meteredWrites, Ordinary a := by
    simp [meteredWrites, longWrite, Ordinary]
  have metered : make 7 ⟨64, .empty, some 2⟩ = .ok ⟨fresh 7 ⟨64, .empty, some 2⟩, .empty, []⟩ := rfl
  have resting : meddled.stage = .rest := Stage.eq_rest_of_isRest (by decide +kernel)
  have runs : Runs ⟨fresh 7 ⟨64, .empty, some 2⟩, .empty, []⟩
      (.setOk false :: longWrite :: meteredWrites) _ (meddled.response.run meteredWrites) :=
    .cons .alone (.cons (.interrupted resting) (runs_alone _ meteredWrites))
  obtain ⟨-, all⟩ := run_delayed rfl metered same unshared ordinary
  obtain ⟨log, delayed, fails⟩ := all _ _ runs
  refine ⟨_, _, _, _, rfl, rfl, same, unshared, ordinary, ?_, ?_, runs, ?_, ?_, log, delayed,
    fails .busy "late" ?_⟩
  · decide +kernel
  · decide +kernel
  · decide +kernel
  · decide +kernel
  · decide +kernel

end CallWire.StreamingResponse
