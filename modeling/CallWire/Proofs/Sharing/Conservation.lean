import CallWire.Proofs.Lists
import CallWire.Proofs.Sharing.Accounts

/-!
# No credit is lost, and none is used twice

Any number of responses draw on one count of credits, and so do others who hold it. Their turns come
in any order. The credits that there were at first and those that were granted are, at every moment,
those that are left, those that others took, and one for every part of a call that has gone out, is
in hand, or was refused; only what is granted beyond the largest count is lost
(`Sharing.run_conserved`).
-/

namespace CallWire

namespace Sharer

/-- Begins an action, unless another one is under way. Returns the credits that it grants. -/
def call (m : Sharer) (a : StreamingResponse.Action) : UInt32 × Sharer :=
  if m.stage.isRest then (a.grants, m.begin a) else (0, m)

end Sharer

/-- Responses and others that share one count of credits. -/
structure Sharing where
  credits : Credits
  sharers : List Sharer
  /-- What has been granted altogether. -/
  granted : Nat
  /-- How many credits have been taken by others than the responses. -/
  direct : Nat
  /-- Whether a grant went beyond the largest count. -/
  capped : Bool

namespace Sharing

/-- A count that nobody has drawn on. -/
def start (c : Credits) : Sharing := ⟨c, [], 0, 0, false⟩

/-- Notes that credits have been granted. -/
def note (s : Sharing) (amount : UInt32) : Sharing :=
  { s with
    granted := s.granted + amount.toNat
    capped := s.capped || decide (Credits.limit < s.credits.available.toNat + amount.toNat) }

/-- A turn of one response, which draws on the count of all. -/
def meet (s : Sharing) (i : Nat) (act : Sharer → UInt32 × Sharer) : Sharing :=
  match s.sharers[i]? with
  | none => s
  | some m =>
      let (granted, m) := act (m.mapCore (·.setCredits s.credits))
      { s.note granted with
        sharers := s.sharers.set i m
        credits := m.response.core.credits?.getD s.credits }

/-- What can happen next. -/
inductive Turn where
  /-- A response comes to share the credits, whatever has been done with it before. -/
  | join (id : UInt32) (config : ResponseConfig) (earlier : List StreamingResponse.Action)
  | call (i : Nat) (a : StreamingResponse.Action)
  | proceed (i : Nat)
  /-- Those who take the frames of a response go away after `n` more of them, which may be in the
  middle of a call. -/
  | closeOutlet (i n : Nat)
  /-- Another holder takes a credit. -/
  | take
  /-- Another holder grants credits. -/
  | grant (amount : UInt32)

def turn (s : Sharing) : Turn → Sharing
  | .join id config earlier =>
      match StreamingResponse.make id config with
      | .ok response => { s with sharers := s.sharers ++ [.join (response.run earlier)] }
      | .error _ => s
  | .call i a => s.meet i (·.call a)
  | .proceed i => s.meet i fun m => (0, m.advance)
  | .closeOutlet i n => s.meet i fun m => (0, m.mapCore (·.closeOutletAfter n))
  | .take =>
      match s.credits.take? with
      | some credits => { s with credits, direct := s.direct + 1 }
      | none => s
  | .grant amount => { s.note amount with credits := s.credits.grant amount }

def run (s : Sharing) (turns : List Turn) : Sharing := turns.foldl turn s

/-- What the responses add up to. -/
def total (s : Sharing) (f : Sharer → Nat) : Nat := (s.sharers.map f).sum

/-- The parts of calls that have gone out. -/
def sent (s : Sharing) : Nat := s.total Sharer.sent

/-- The parts of calls that have their credit and are about to go out. -/
def inHand (s : Sharing) : Nat := s.total Sharer.inHand

/-- The parts of calls that had their credit and found their outlet closed. -/
def refused (s : Sharing) : Nat := s.total Sharer.refused

/-- What can be told of the credits that are shared, of which there were `initial` at first. -/
structure Conserved (initial : Credits) (s : Sharing) : Prop where
  bounded : s.sent + s.inHand + s.direct + s.credits.available.toNat ≤
    initial.available.toNat + s.granted
  /-- Nothing is lost unless a grant went beyond the largest count or an outlet refused a frame. -/
  exact : s.capped = false → s.refused = 0 →
    s.sent + s.inHand + s.direct + s.credits.available.toNat =
      initial.available.toNat + s.granted
  /-- Between calls nothing is in hand. -/
  settled : (∀ m ∈ s.sharers, m.stage = .rest) → s.inHand = 0
  /-- Every part of a call takes a credit that its own response has taken, and nothing else does. -/
  own : ∀ m ∈ s.sharers, m.sent + m.inHand + m.refused = m.taken
  /-- What is about to go out with a credit is a part of a call. -/
  calls : ∀ m ∈ s.sharers, ∀ f, m.stage.inHand? = some f → f.isCallPart = true
  /-- An error neither takes nor gives back credits, whatever waits and whatever it discards. -/
  errors : ∀ i code message, let t := s.turn (.call i (.sendError code message))
    t.credits = s.credits ∧ t.sharers.map Sharer.taken = s.sharers.map Sharer.taken ∧
      t.sharers.map Sharer.sent = s.sharers.map Sharer.sent

/-- The accounts of all that share the credits. -/
structure Balanced (initial : Credits) (s : Sharing) : Prop where
  accounted : ∀ m ∈ s.sharers, m.Accounted
  bounded : s.total Sharer.taken + s.direct + s.credits.available.toNat ≤
    initial.available.toNat + s.granted
  exact : s.capped = false → s.total Sharer.taken + s.direct + s.credits.available.toNat =
    initial.available.toNat + s.granted

variable {initial : Credits} {s : Sharing}

theorem balanced_start (c : Credits) : Balanced c (start c) :=
  ⟨List.forall_mem_nil _, Nat.le_of_eq (by simp [start, total]), fun _ => by simp [start, total]⟩

/-- A grant adds what is granted, up to the largest count. -/
theorem available_grant (s : Sharing) (amount : UInt32) :
    (s.credits.grant amount).available.toNat ≤ s.credits.available.toNat + amount.toNat ∧
      ((s.note amount).capped = false → s.capped = false ∧
        (s.credits.grant amount).available.toNat =
          s.credits.available.toNat + amount.toNat) := by
  have count := s.credits.toNat_grant amount
  refine ⟨count ▸ Nat.min_le_left _ _, fun uncapped => ?_⟩
  obtain ⟨before, fits⟩ := Bool.or_eq_false_iff.mp uncapped
  have small := of_decide_eq_false fits
  exact ⟨before, count.trans (Nat.min_eq_left (Nat.not_lt.mp small))⟩

/-- What an act does to a response, whatever count it finds: it pays for what it takes, and adds
what it grants. -/
def Fair (act : Sharer → UInt32 × Sharer) : Prop :=
  ∀ (m : Sharer) (c : Credits), m.Accounted → m.response.core.credits? = some c →
    m.Pays (c.grant (act m).1) (act m).2

theorem balanced_meet (h : s.Balanced initial) {act : Sharer → UInt32 × Sharer} (fair : Fair act)
    (i : Nat) : (s.meet i act).Balanced initial := by
  cases here : s.sharers[i]? with
  | none =>
    rw [meet, here]
    exact h
  | some m =>
    have accounted := h.accounted m (List.mem_of_getElem? here)
    obtain ⟨after, d, credits, paid⟩ := fair (m.mapCore (·.setCredits s.credits)) s.credits
      ⟨accounted.waiting, accounted.inHand, accounted.ahead, accounted.since, accounted.paid⟩ rfl
    simp only [meet, here]
    generalize act (m.mapCore (·.setCredits s.credits)) = result at after credits paid ⊢
    obtain ⟨granted, n⟩ := result
    replace credits : n.response.core.credits? = some d := credits
    replace paid : n.taken + d.available.toNat =
      m.taken + (s.credits.grant granted).available.toNat := paid
    obtain ⟨others, all, put, -⟩ := exists_sum_others here Sharer.taken
    obtain ⟨most, uncapped⟩ := s.available_grant granted
    have bounded := h.bounded
    simp only [total, all] at bounded
    simp only [credits, Option.getD_some]
    constructor
    · intro k hk
      rcases List.mem_or_eq_of_mem_set hk with old | rfl
      · exact h.accounted k old
      · exact after
    · simp only [total, put, note]
      omega
    · intro fits
      obtain ⟨before, count⟩ := uncapped fits
      have exact := h.exact before
      simp only [total, all] at exact
      simp only [total, put, note]
      omega

theorem fair_call (a : StreamingResponse.Action) : Fair (·.call a) := by
  intro m c accounted credits
  show m.Pays (c.grant (m.call a).1) (m.call a).2
  cases here : m.stage with
  | rest =>
    simp only [Sharer.call, here, Stage.isRest, if_true]
    exact Sharer.pays_begin accounted credits here a
  | pumping | sending | draining | settling =>
    simp only [Sharer.call, here, Stage.isRest, Bool.false_eq_true, if_false, c.grant_zero]
    exact ⟨accounted, c, credits, rfl⟩

theorem fair_advance : Fair fun m => (0, m.advance) := by
  intro m c accounted credits
  rw [c.grant_zero]
  exact Sharer.pays_advance accounted credits

theorem fair_closeOutlet (n : Nat) : Fair fun m => (0, m.mapCore (·.closeOutletAfter n)) := by
  intro m c accounted credits
  rw [c.grant_zero]
  exact ⟨⟨accounted.waiting, accounted.inHand, accounted.ahead, accounted.since, accounted.paid⟩,
    c, credits, rfl⟩

/-- A turn leaves the accounts balanced. -/
theorem balanced_turn (h : s.Balanced initial) (t : Turn) : (s.turn t).Balanced initial := by
  cases t with
  | join id config earlier =>
    cases made : StreamingResponse.make id config with
    | error fault =>
      simp only [turn, made]
      exact h
    | ok response =>
      have waits := StreamingResponse.waits_run (StreamingResponse.waits_make made) earlier
      have same : ((s.sharers ++ [Sharer.join (response.run earlier)]).map Sharer.taken).sum =
          (s.sharers.map Sharer.taken).sum := by simp [Sharer.join]
      simp only [turn, made]
      refine ⟨?_, ?_, fun uncapped => ?_⟩
      · exact List.forall_mem_append.mpr
          ⟨h.accounted, List.forall_mem_singleton.mpr (Sharer.accounted_join waits.2)⟩
      · simp only [total, same]
        exact h.bounded
      · simp only [total, same]
        exact h.exact uncapped
  | call i a => exact balanced_meet h (fair_call a) i
  | proceed i => exact balanced_meet h fair_advance i
  | closeOutlet i n => exact balanced_meet h (fair_closeOutlet n) i
  | take =>
    have bounded := h.bounded
    cases taken : s.credits.take? with
    | none =>
      simp only [turn, taken]
      exact h
    | some credits =>
      have one := Credits.toNat_take? taken
      simp only [turn, taken]
      refine ⟨h.accounted, ?_, fun uncapped => ?_⟩
      · simp only [total] at bounded ⊢
        omega
      · have exact := h.exact uncapped
        simp only [total] at exact ⊢
        omega
  | grant amount =>
    obtain ⟨most, uncapped⟩ := s.available_grant amount
    have bounded := h.bounded
    refine ⟨h.accounted, ?_, fun fits => ?_⟩
    · simp only [turn, note, total] at bounded ⊢
      omega
    · obtain ⟨before, count⟩ := uncapped fits
      have exact := h.exact before
      simp only [turn, note, total] at exact ⊢
      omega

theorem balanced_run (h : s.Balanced initial) (turns : List Turn) :
    (s.run turns).Balanced initial := by
  induction turns generalizing s with
  | nil => exact h
  | cons t rest ih => exact ih (balanced_turn h t)

/-- What has been paid for adds up. -/
theorem total_taken (accounted : ∀ m ∈ s.sharers, m.Accounted) :
    s.sent + s.inHand + s.refused = s.total Sharer.taken := by
  unfold sent inHand refused total
  generalize s.sharers = sharers at accounted
  induction sharers with
  | nil => rfl
  | cons m rest ih =>
    obtain ⟨first, others⟩ := List.forall_mem_cons.mp accounted
    have paid := first.paid
    have all := ih others
    simp only [List.map_cons, List.sum_cons]
    omega

/-- A response that is not in the middle of a call has nothing in hand. -/
theorem inHand_of_rest (rest : ∀ m ∈ s.sharers, m.stage = .rest) : s.inHand = 0 := by
  apply List.sum_eq_zero_iff_forall_eq_nat.mpr
  intro n counted
  obtain ⟨m, hm, rfl⟩ := List.mem_map.mp counted
  rw [Sharer.inHand, rest m hm]
  rfl

/-- An error changes nothing about the credits. -/
theorem turn_sendError (accounted : ∀ m ∈ s.sharers, m.Accounted) (i : Nat) (code : ErrorCode)
    (message : String) : let t := s.turn (.call i (.sendError code message))
      t.credits = s.credits ∧ t.sharers.map Sharer.taken = s.sharers.map Sharer.taken ∧
        t.sharers.map Sharer.sent = s.sharers.map Sharer.sent := by
  cases here : s.sharers[i]? with
  | none =>
    have nobody : s.turn (.call i (.sendError code message)) = s := by
      rw [turn, meet, here]
    rw [nobody]
    exact ⟨rfl, rfl, rfl⟩
  | some m =>
    let found := m.mapCore (·.setCredits s.credits)
    suffices kept : (found.call (.sendError code message)).2.taken = m.taken ∧
        (found.call (.sendError code message)).2.sent = m.sent ∧
        (found.call (.sendError code message)).2.response.core.credits? = some s.credits by
      obtain ⟨taken, sent, credits⟩ := kept
      simp only [turn, meet, here]
      refine ⟨?_, map_set_of_same here taken, map_set_of_same here sent⟩
      rw [credits, Option.getD_some]
    have h := accounted m (List.mem_of_getElem? here)
    unfold Sharer.call
    split
    · have accounted : found.Accounted := ⟨h.waiting, h.inHand, h.ahead, h.since, h.paid⟩
      obtain ⟨-, sent, credits⟩ := Sharer.pays_sendError accounted rfl code message
      exact ⟨rfl, sent, credits⟩
    · exact ⟨rfl, rfl, rfl⟩

/-- **No credit is lost, and none is used twice.** -/
theorem run_conserved (initial : Credits) (turns : List Turn) :
    Conserved initial ((start initial).run turns) := by
  have h := balanced_run (balanced_start initial) turns
  have all := total_taken h.accounted
  have bounded := h.bounded
  refine ⟨?_, ?_, inHand_of_rest, ?_, ?_, ?_⟩
  · omega
  · intro uncapped unrefused
    have exact := h.exact uncapped
    omega
  · exact fun m hm => (h.accounted m hm).paid
  · exact fun m hm => (h.accounted m hm).inHand
  · exact turn_sendError h.accounted

/-- Two responses share one credit. While the frame of the first is in hand, that of the second has
to wait. -/
def contested : List Turn :=
  [.join 1 ⟨64, .empty, none⟩ [], .join 2 ⟨64, .empty, none⟩ [], .call 0 (.setOk true),
    .call 1 (.setOk true), .proceed 0, .proceed 1, .proceed 0, .proceed 1]

example : ((start ⟨1⟩).run contested).inHand = 1 ∧
    ((start ⟨1⟩).run contested).credits.available = 0 ∧
    ((start ⟨1⟩).run contested).sharers.map (·.response.core.backlog.length) = [0, 1] := by
  decide +kernel

end Sharing

end CallWire
