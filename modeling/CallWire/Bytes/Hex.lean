import CallWire.Bytes

/-!
# Hexadecimal text

Lower-case hexadecimal, two digits to a byte, as tracing values and error messages show it.
`ofHex?` reads what `hex` writes: `ofHex?_hex`.
-/

namespace CallWire.Bytes

/-- The lower-case digit of a value below 16. -/
def hexDigit (n : Nat) : Char :=
  if n < 10 then Char.ofNat (48 + n) else Char.ofNat (87 + n)

/-- The value of a lower-case digit. -/
def hexValue? (c : Char) : Option Nat :=
  if '0' ≤ c ∧ c ≤ '9' then some (c.toNat - 48)
  else if 'a' ≤ c ∧ c ≤ 'f' then some (c.toNat - 87)
  else none

def hexDigits : Bytes → List Char
  | [] => []
  | b :: bs => hexDigit (b.toNat / 16) :: hexDigit (b.toNat % 16) :: hexDigits bs

def hex (bs : Bytes) : String := String.ofList (hexDigits bs)

/-- The byte string that the digits stand for, if there is an even number of them. -/
def ofHexDigits? : List Char → Option Bytes
  | [] => some []
  | [_] => none
  | hi :: lo :: rest => do
      let h ← hexValue? hi
      let l ← hexValue? lo
      let bs ← ofHexDigits? rest
      some (UInt8.ofNat (h * 16 + l) :: bs)

theorem hexValue?_hexDigit {n : Nat} (h : n < 16) : hexValue? (hexDigit n) = some n := by
  have all : ∀ m : Fin 16, hexValue? (hexDigit m) = some m.val := by decide
  exact all ⟨n, h⟩

theorem ofHexDigits?_hexDigits (bs : Bytes) : ofHexDigits? (hexDigits bs) = some bs := by
  induction bs with
  | nil => rfl
  | cons b bs ih =>
    have hb : b.toNat < 256 := b.toNat_lt
    have hh := hexValue?_hexDigit (n := b.toNat / 16) (by omega)
    have hl := hexValue?_hexDigit (n := b.toNat % 16) (by omega)
    have hv : b.toNat / 16 * 16 + b.toNat % 16 = b.toNat := by omega
    simp only [hexDigits, ofHexDigits?, hh, hl, ih, hv, Option.bind_eq_bind, Option.bind_some,
      UInt8.ofNat_toNat]

def ofHex? (s : String) : Option Bytes := ofHexDigits? s.toList

theorem ofHex?_hex (bs : Bytes) : ofHex? (hex bs) = some bs := by
  simp [ofHex?, hex, ofHexDigits?_hexDigits]

end CallWire.Bytes
