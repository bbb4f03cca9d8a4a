import CallWire.Json.Value
import CallWire.Pool
import CallWire.Text.Logged

/-!
# Registries of pools

A registry lists pools by name for those who look for leaks. Here it is a list of references to
pools of some kind `κ`, by ascending name; registering a name again replaces the reference.
-/

namespace CallWire

/-- References to pools under their names. -/
structure Registry (κ : Type) where
  entries : List (String × κ)

namespace Registry

variable {κ : Type}

def empty : Registry κ := ⟨[]⟩

/-- Puts an entry in its place by name. -/
def place (name : String) (k : κ) : List (String × κ) → List (String × κ)
  | [] => [(name, k)]
  | (n, k') :: rest =>
      if name < n then (name, k) :: (n, k') :: rest
      else if name = n then (n, k) :: rest
      else (n, k') :: place name k rest

def register (r : Registry κ) (name : String) (k : κ) : Registry κ := ⟨place name k r.entries⟩

def find? (r : Registry κ) (name : String) : Option κ :=
  (r.entries.find? (·.1 = name)).map (·.2)

/-- The counters of all registered pools, by ascending name. -/
def snapshot (r : Registry κ) (stats : κ → PoolStats) : List PoolStats :=
  r.entries.map fun e => stats e.2

end Registry

namespace PoolStats

def leaks (stats : List PoolStats) : List PoolStats := stats.filter fun s => s.outstanding > 0

def toJson (s : PoolStats) : String :=
  Json.object [
    ("name", Json.quote s.name),
    ("outstanding", toString s.outstanding.toNat),
    ("reused", toString s.reused.toNat),
    ("newed", toString s.newed.toNat)]

def report (stats : List PoolStats) : String := Json.array (stats.map toJson)

end PoolStats

def Pool.describe {α : Type} (p : Pool α) : String :=
  let name := Text.quoteForLog p.name
  s!"Pool \x7b stats: PoolStats \x7b name: {name}, outstanding: {p.stats.outstanding.toNat}, "
    ++ s!"reused: {p.stats.reused.toNat}, newed: {p.stats.newed.toNat} \x7d, "
    ++ s!"idle: {p.idle.length} \x7d"

end CallWire
