import CallWire.Credits

/-!
# Shared credits

Several holders can draw on one count of credits. Counts and holders are named by their place, in
the order in which they came.

* `takeUpTo_succ`, `takeUpTo_none`: taking up to a number of credits is taking one after another
  until there is none.
-/

namespace CallWire

namespace Credits

/-- Takes up to `n` credits; returns how many were taken. -/
def takeUpTo (c : Credits) (n : Nat) : Nat × Credits :=
  let taken := min n c.available.toNat
  (taken, ⟨UInt32.ofNat (c.available.toNat - taken)⟩)

theorem takeUpTo_zero (c : Credits) : c.takeUpTo 0 = (0, c) := by
  simp [takeUpTo]

theorem takeUpTo_none {c : Credits} (h : c.take? = none) (n : Nat) : c.takeUpTo n = (0, c) := by
  have empty := take?_eq_none_iff.mp h
  cases c
  simp_all [takeUpTo]

theorem takeUpTo_succ {c d : Credits} (h : c.take? = some d) (n : Nat) :
    c.takeUpTo (n + 1) = ((d.takeUpTo n).1 + 1, (d.takeUpTo n).2) := by
  have one := toNat_take? h
  simp only [takeUpTo, ← one, Prod.mk.injEq]
  constructor
  · omega
  · congr 2
    omega

end Credits

/-- Counts of credits, and for every holder the count that it draws on. -/
structure SharedCredits where
  counts : List Credits
  holders : List Nat

namespace SharedCredits

def start (c : Credits) : SharedCredits := ⟨[c], [0]⟩

/-- The count that a holder draws on; nothing for one that does not exist. -/
def countOf (s : SharedCredits) (holder : Nat) : Credits :=
  (s.holders[holder]?.bind (s.counts[·]?)).getD ⟨0⟩

def available (s : SharedCredits) : List Credits :=
  (List.range s.holders.length).map s.countOf

def setCount (s : SharedCredits) (holder : Nat) (c : Credits) : SharedCredits :=
  match s.holders[holder]? with
  | some i => { s with counts := s.counts.set i c }
  | none => s

def add (s : SharedCredits) (c : Credits) : SharedCredits :=
  ⟨s.counts ++ [c], s.holders ++ [s.counts.length]⟩

def share (s : SharedCredits) (holder : Nat) : SharedCredits :=
  match s.holders[holder]? with
  | some i => { s with holders := s.holders ++ [i] }
  | none => s

def take (s : SharedCredits) (holder n : Nat) : Nat × SharedCredits :=
  let (taken, c) := (s.countOf holder).takeUpTo n
  (taken, s.setCount holder c)

def grant (s : SharedCredits) (holder : Nat) (amount : UInt32) : SharedCredits :=
  s.setCount holder ((s.countOf holder).grant amount)

end SharedCredits

end CallWire
