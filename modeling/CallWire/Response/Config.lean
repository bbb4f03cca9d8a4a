import CallWire.Frame
import CallWire.Json.Value

/-!
# Response settings

How large the bodies of a response's frames may be, which headers its first frame carries, and how
many frames it may send before it is granted more. Settings are exchanged as JSON, in which what is
left out takes its default.
-/

namespace CallWire

structure ResponseConfig where
  /-- The largest body of a frame; longer arguments are cut. -/
  maxBodySize : Nat
  headers : Headers
  /-- The credits to start with, or none if frames need no credit. -/
  initialCredits? : Option UInt32
  deriving DecidableEq

inductive ConfigError where
  | bodySizeOutOfRange (size : Nat)
  | tooManyHeaders (count : Nat)
  /-- The settings are no JSON of the right form. -/
  | malformed
  deriving DecidableEq

namespace ResponseConfig

def minBodySize : Nat := 64

/-- The settings of a response for which nothing is set. -/
def default : ResponseConfig := ⟨FrameLayout.maxBodySize, Headers.empty, none⟩

instance : Inhabited ResponseConfig := ⟨default⟩

/-- Whether the settings can be used, and if not, why. -/
def validate (c : ResponseConfig) : Except ConfigError Unit :=
  if c.maxBodySize < minBodySize ∨ FrameLayout.maxBodySize < c.maxBodySize then
    .error (.bodySizeOutOfRange c.maxBodySize)
  else if Width.narrow.limit < c.headers.size then .error (.tooManyHeaders c.headers.size)
  else .ok ()

end ResponseConfig

/-- What is wrong with settings, as far as it can be said in general. -/
def ConfigError.message : ConfigError → String
  | bodySizeOutOfRange n =>
      s!"max_body_size must be within {ResponseConfig.minBodySize}..={FrameLayout.maxBodySize}, "
        ++ s!"got {n}"
  | tooManyHeaders n => s!"at most {Width.narrow.limit} transport headers, got {n}"
  | malformed => "malformed"

/-- A header map as JSON: an array of pairs. -/
def Headers.toJson (h : Headers) : String :=
  Json.array (h.entries.map fun (k, v) => Json.array [Json.quote k, Json.quote v])

/-- The header map that an array of pairs stands for; repeated keys are kept. -/
def Headers.ofValue? : Json.Value → Option Headers
  | .array pairs => do
      let entries ← pairs.mapM fun
        | .array [.text (some k), .text (some v)] => some (k, v)
        | _ => none
      some ⟨entries⟩
  | _ => none

namespace ResponseConfig

def toJson (c : ResponseConfig) : String :=
  Json.object [
    ("max_body_size", toString c.maxBodySize),
    ("headers", c.headers.toJson),
    ("initial_credits", c.initialCredits?.elim "null" fun n => toString n.toNat)]

/-- The settings with those replaced that are given. -/
private def ofParts? (size headers credits : Option Json.Value) : Option ResponseConfig := do
  let read {α : Type} (v : Option Json.Value) (f : Json.Value → Option α) (missing : α) :
      Option α := v.elim (some missing) f
  some {
    maxBodySize := ← read size (Json.Value.count? 18446744073709551615) default.maxBodySize
    headers := ← read headers Headers.ofValue? default.headers
    initialCredits? := ←
      read credits (Json.Value.optional? fun v => (v.count? 4294967295).map UInt32.ofNat)
        default.initialCredits? }

/-- The settings that a value stands for: an object, or an array of up to three settings in order. -/
def ofValue? : Json.Value → Option ResponseConfig
  | .object members => do
      let members ← Json.named? members
      let size ← Json.single? members "max_body_size"
      let headers ← Json.single? members "headers"
      let credits ← Json.single? members "initial_credits"
      ofParts? size headers credits
  | .array [] => ofParts? none none none
  | .array [size] => ofParts? (some size) none none
  | .array [size, headers] => ofParts? (some size) (some headers) none
  | .array [size, headers, credits] => ofParts? (some size) (some headers) (some credits)
  | _ => none

def ofJson (s : String) : Except ConfigError ResponseConfig :=
  match (Json.parse? s).bind ofValue? with
  | none => .error .malformed
  | some c => do
      c.validate
      return c

end ResponseConfig

end CallWire
