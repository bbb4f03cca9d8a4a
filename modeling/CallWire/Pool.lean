import CallWire.Fault

/-!
# Object pools

Instances that came back to a pool are handed out again in the order in which they came. Using a
handle after it was given back, or giving it back again, is a breach. Handles made directly, or by
cloning others, are counted by no pool, but may be given back all the same.
-/

namespace CallWire

structure Pooled (α : Type) where
  value? : Option α
  counted : Bool

namespace Pooled

variable {α : Type}

def detached (a : α) : Pooled α := ⟨some a, false⟩

def isFreed (h : Pooled α) : Bool := h.value?.isNone

def get {ε : Type} (h : Pooled α) : Except (Fault ε) α :=
  match h.value? with
  | some a => .ok a
  | none => .error (.breach .useAfterFree)

def set {ε : Type} (h : Pooled α) (a : α) : Except (Fault ε) (Pooled α) := do
  let _ ← h.get
  return { h with value? := some a }

def clone (h : Pooled α) : Pooled α := ⟨h.value?, false⟩

def same [DecidableEq α] (h k : Pooled α) : Bool := h.value? = k.value?

end Pooled

structure PoolStats where
  name : String
  outstanding : UInt64
  reused : UInt64
  newed : UInt64
  deriving DecidableEq

structure Pool (α : Type) where
  stats : PoolStats
  fresh : α
  reset? : Option (α → α)
  /-- The instances that wait, the first to be handed out again in front. -/
  idle : List α

namespace Pool

variable {α : Type}

private def build (name : String) (fresh : α) (reset? : Option (α → α)) : Pool α :=
  { stats := ⟨name, 0, 0, 0⟩, fresh, reset?, idle := [] }

def plain (name : String) (fresh : α) : Pool α := build name fresh none

def resetting (name : String) (fresh : α) (reset : α → α) : Pool α := build name fresh (some reset)

def name (p : Pool α) : String := p.stats.name

def get (p : Pool α) : Pooled α × Pool α :=
  let stats := { p.stats with outstanding := p.stats.outstanding + 1 }
  match p.idle with
  | a :: idle => (⟨some a, true⟩, { p with stats := { stats with reused := stats.reused + 1 }, idle })
  | [] => (⟨some p.fresh, true⟩, { p with stats := { stats with newed := stats.newed + 1 } })

def kept (p : Pool α) (a : α) : α :=
  match p.reset? with
  | some reset => reset a
  | none => a

/-- Takes back the instance behind a handle; returns the emptied handle and the pool. -/
def free {ε : Type} (p : Pool α) (h : Pooled α) : Except (Fault ε) (Pooled α × Pool α) :=
  match h.value? with
  | none => .error (.breach (.doubleFree p.name))
  | some a =>
      let outstanding :=
        if h.counted then p.stats.outstanding - 1 else p.stats.outstanding
      .ok ({ h with value? := none },
        { p with stats := { p.stats with outstanding }, idle := p.idle ++ [p.kept a] })

end Pool

end CallWire
