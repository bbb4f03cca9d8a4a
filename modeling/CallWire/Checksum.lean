import CallWire.Cursor
import CallWire.Segment

/-!
# Checksums

A checksum is a type byte and, unless the type says that there is none, a value of four bytes. The
transport carries checksums and does not compute them.
-/

namespace CallWire

inductive ChecksumType where
  | none
  | crc32
  | farmhash32
  | crc32c
  deriving DecidableEq, Repr

namespace ChecksumType

def all : List ChecksumType := [none, crc32, farmhash32, crc32c]

def number : ChecksumType → UInt8
  | none => 0x00
  | crc32 => 0x01
  | farmhash32 => 0x02
  | crc32c => 0x03

def ofNumber? (n : UInt8) : Option ChecksumType := all.find? (·.number = n)

theorem ofNumber?_number (t : ChecksumType) : ofNumber? t.number = some t := by
  cases t <;> rfl

theorem number_of_ofNumber? {n : UInt8} {t : ChecksumType} (h : ofNumber? n = some t) :
    t.number = n := by
  simpa using List.find?_some h

end ChecksumType

/-- A checksum. The value of one without a type is kept but never written. -/
structure Checksum where
  type : ChecksumType
  value : UInt32
  deriving DecidableEq

namespace Checksum

/-- The checksum of a body that has none. -/
def absent : Checksum := ⟨.none, 0⟩

instance : Inhabited Checksum := ⟨absent⟩

def length (c : Checksum) : Nat :=
  match c.type with
  | .none => 1
  | _ => 5

def segments (c : Checksum) : List Segment :=
  match c.type with
  | .none => [.byte c.type.number]
  | _ => [.byte c.type.number, .word32 c.value]

def read : Reader Checksum := do
  let n ← Reader.byte
  match ChecksumType.ofNumber? n with
  | .none => Reader.fail (.invalidChecksumType n)
  | .some .none => return absent
  | .some type => return ⟨type, ← Reader.word32⟩

end Checksum

end CallWire
