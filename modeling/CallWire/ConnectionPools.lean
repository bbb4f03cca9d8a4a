import CallWire.LazyFrame
import CallWire.Pool.Registry

/-!
# The pools of a connection

A connection has a pool for frames, one for lazy frames and one for error responses. Each comes
into being when it is first used, even if that use fails, and is listed from then on.
-/

namespace CallWire

/-- The pools that a connection has used so far. -/
structure ConnectionPools where
  frames? : Option (Pool Frame)
  lazyFrames? : Option (Pool LazyFrame)
  errors? : Option (Pool ErrorResponse)

namespace ConnectionPools

def empty : ConnectionPools := ⟨none, none, none⟩

def frames (p : ConnectionPools) : Pool Frame :=
  p.frames?.getD (.resetting "Frame" Frame.blank Frame.reset)

def lazyFrames (p : ConnectionPools) : Pool LazyFrame :=
  p.lazyFrames?.getD (.resetting "LazyFrame" LazyFrame.blank LazyFrame.reset)

def errors (p : ConnectionPools) : Pool ErrorResponse :=
  p.errors?.getD (.resetting "ErrorResponse" ErrorResponse.blank ErrorResponse.reset)

/-- Brings all three pools into being. -/
def touchAll (p : ConnectionPools) : ConnectionPools :=
  ⟨some p.frames, some p.lazyFrames, some p.errors⟩

def takeFrame (p : ConnectionPools) : Pooled Frame × ConnectionPools :=
  let (h, pool) := p.frames.get
  (h, { p with frames? := some pool })

def takeLazyFrame (p : ConnectionPools) : Pooled LazyFrame × ConnectionPools :=
  let (h, pool) := p.lazyFrames.get
  (h, { p with lazyFrames? := some pool })

def takeError (p : ConnectionPools) : Pooled ErrorResponse × ConnectionPools :=
  let (h, pool) := p.errors.get
  (h, { p with errors? := some pool })

def freeError (p : ConnectionPools) (h : Pooled ErrorResponse) :
    Outcome (Pooled ErrorResponse) × ConnectionPools :=
  match p.errors.free h with
  | .ok (h, pool) => (.ok h, { p with errors? := some pool })
  | .error fault => (.error fault, { p with errors? := some p.errors })

/-- Gives back what the body holds of a pool. A body that was given back already is left alone. -/
def freeBody (p : ConnectionPools) : HeldBody → ConnectionPools
  | .error h => if h.isFreed then p else (p.freeError h).2
  | _ => p

/-- Gives back the body that was taken out of a frame, if there is one. -/
def freeBody? (p : ConnectionPools) : Option HeldBody → ConnectionPools
  | some b => p.freeBody b
  | none => p

/-- Gives back a frame and the body in it. -/
def freeFrame (p : ConnectionPools) (h : Pooled Frame) :
    Outcome (Pooled Frame) × ConnectionPools :=
  let p := p.freeBody? (h.value?.bind (·.body?))
  let h := { h with value? := h.value?.map ({ · with body? := none }) }
  match p.frames.free h with
  | .ok (h, pool) => (.ok h, { p with frames? := some pool })
  | .error fault => (.error fault, { p with frames? := some p.frames })

/-- Gives back a lazy frame and the body that was decoded from it. -/
def freeLazyFrame (p : ConnectionPools) (h : Pooled LazyFrame) :
    Outcome (Pooled LazyFrame) × ConnectionPools :=
  let p := p.freeBody? (h.value?.bind (·.body?))
  let h := { h with value? := h.value?.map ({ · with body? := none }) }
  match p.lazyFrames.free h with
  | .ok (h, pool) => (.ok h, { p with lazyFrames? := some pool })
  | .error fault => (.error fault, { p with lazyFrames? := some p.lazyFrames })

/-- The counters of the pools in use, by ascending name. -/
def snapshot (p : ConnectionPools) : List PoolStats :=
  (p.errors?.map (·.stats)).toList ++ (p.frames?.map (·.stats)).toList ++
    (p.lazyFrames?.map (·.stats)).toList

/-- The counters of the pool with the given name, if it is in use. -/
def stats? (p : ConnectionPools) (name : String) : Option PoolStats :=
  p.snapshot.find? (·.name = name)

/-- Reads the body of a frame of the given type. An error response is read into an instance of the
pool, which is given back if that fails. -/
def readBody (p : ConnectionPools) (type : FrameType) (buf : Bytes) (offset : Nat) :
    Outcome (Nat × HeldBody) × ConnectionPools :=
  match type with
  | .errorResponse =>
      let (h, p) := p.takeError
      match ErrorResponse.read.runAt buf offset with
      | .ok (stop, e) => (.ok (stop, .error { h with value? := some e }), p)
      | .error fault => (.error fault, (p.freeError h).2)
  | _ =>
      match (Body.read type).runAt buf offset with
      | .ok (stop, b) => (.ok (stop, HeldBody.ofBody b), p)
      | .error fault => (.error fault, p)

end ConnectionPools

end CallWire
