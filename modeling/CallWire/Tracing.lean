import CallWire.Bytes.Hex

/-!
# Tracing values

Opaque bytes that correlate calls. The transport copies them and never looks inside.
-/

namespace CallWire

structure Tracing where
  bytes : Bytes
  length_eq : bytes.length = 25
  deriving DecidableEq

namespace Tracing

def width : Nat := 25

def ofBytes (bs : Bytes) : Tracing where
  bytes := (bs ++ Bytes.zeros width).take width
  length_eq := by simp [Bytes.zeros, width]

def empty : Tracing := ofBytes []

instance : Inhabited Tracing := ⟨empty⟩

def isEmpty (t : Tracing) : Bool := t.bytes.all (· == 0)

def describe (t : Tracing) : String := "Tracing(" ++ t.bytes.hex ++ ")"

theorem ofBytes_bytes (t : Tracing) : ofBytes t.bytes = t := by
  cases t with
  | mk bs h => simp [ofBytes, width, Bytes.zeros, h]

theorem bytes_ofBytes {bs : Bytes} (h : bs.length = width) : (ofBytes bs).bytes = bs := by
  simp [ofBytes, ← h]

end Tracing

/-- The annotation that a server records when it sends its response. -/
def serverSend : String := "ss"

end CallWire
