import CallWire.Pool.Registry

/-!
# Pools and handles at work

Any number of pools of one type, and the handles that were taken from them or made beside them, in
the order of their creation. An instance may be given back to any of the pools.
-/

namespace CallWire

structure Exchange (α : Type) where
  pools : List (Pool α)
  handles : List (Pooled α)

namespace Exchange

variable {α : Type}

inductive Action (α : Type) where
  | get (pool : Nat)
  | make (value : α)
  | clone (handle : Nat)
  | set (handle : Nat) (value : α)
  | free (pool handle : Nat)

def addHandle (x : Exchange α) (h : Pooled α) : Exchange α :=
  { x with handles := x.handles ++ [h] }

/-- Performs one action. Naming a pool or a handle that does not exist does nothing. -/
def step {ε : Type} (x : Exchange α) : Action α → Except (Fault ε) (Exchange α)
  | .get p =>
      match x.pools[p]? with
      | none => .ok x
      | some pool =>
          let (h, pool) := pool.get
          .ok { pools := x.pools.set p pool, handles := x.handles ++ [h] }
  | .make a => .ok (x.addHandle (.detached a))
  | .clone h =>
      match x.handles[h]? with
      | none => .ok x
      | some handle => .ok (x.addHandle handle.clone)
  | .set h a =>
      match x.handles[h]? with
      | none => .ok x
      | some handle => do
          let handle ← handle.set a
          return { x with handles := x.handles.set h handle }
  | .free p h =>
      match x.pools[p]?, x.handles[h]? with
      | some pool, some handle => do
          let (handle, pool) ← pool.free handle
          return { pools := x.pools.set p pool, handles := x.handles.set h handle }
      | _, _ => .ok x

/-- Performs actions in order; one that breaks the contract leaves everything as it was. -/
def run (x : Exchange α) : List (Action α) → Exchange α
  | [] => x
  | a :: rest =>
      match x.step (ε := Empty) a with
      | .ok x => run x rest
      | .error _ => run x rest

end Exchange

end CallWire
