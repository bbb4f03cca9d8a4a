/-!
# Byte strings

A byte string is a list of bytes. This module gives the big-endian form of a number in a fixed
count of bytes, and two length tests that stop as soon as the answer is known.

* `ofBigEndian_bigEndian`: a number written in `w` bytes reads back modulo `capacity w`;
* `bigEndian_ofBigEndian`: bytes read as a number are written back unchanged;
* `covers_iff`, `fits_iff`: the two tests compare with the length.
-/

namespace CallWire

/-- A byte string, first byte first. -/
abbrev Bytes := List UInt8

namespace Bytes

/-- How many numbers can be told apart in `w` bytes. -/
def capacity : Nat → Nat
  | 0 => 1
  | w + 1 => capacity w * 256

/-- The last `w` base-256 digits of `n`, the most significant first. -/
def bigEndian : Nat → Nat → Bytes
  | 0, _ => []
  | w + 1, n => UInt8.ofNat (n / capacity w) :: bigEndian w n

/-- The number whose base-256 digits are the bytes, the most significant first. -/
def ofBigEndian (bs : Bytes) : Nat :=
  bs.foldl (fun n b => n * 256 + b.toNat) 0

/-- Whether `bs` has at least `n` bytes; looks at no more than `n` of them. -/
def covers : Nat → Bytes → Bool
  | 0, _ => true
  | _ + 1, [] => false
  | n + 1, _ :: bs => covers n bs

/-- Whether `bs` has at most `n` bytes; looks at no more than `n + 1` of them. -/
def fits : Nat → Bytes → Bool
  | _, [] => true
  | 0, _ :: _ => false
  | n + 1, _ :: bs => fits n bs

/-- A string of `n` zero bytes. -/
def zeros (n : Nat) : Bytes := List.replicate n 0

theorem capacity_pos (w : Nat) : 0 < capacity w := by
  induction w with
  | zero => exact Nat.one_pos
  | succ w ih => exact Nat.mul_pos ih (by decide)

theorem covers_iff {n : Nat} {bs : Bytes} : covers n bs = true ↔ n ≤ bs.length := by
  induction n generalizing bs with
  | zero => simp [covers]
  | succ n ih => cases bs <;> simp [covers, ih]

theorem covers_eq (n : Nat) (bs : Bytes) : covers n bs = decide (n ≤ bs.length) := by
  rw [Bool.eq_iff_iff]; simp [covers_iff]

theorem fits_iff {n : Nat} {bs : Bytes} : fits n bs = true ↔ bs.length ≤ n := by
  induction bs generalizing n with
  | nil => simp [fits]
  | cons b bs ih => cases n <;> simp [fits, ih]

theorem fits_eq (n : Nat) (bs : Bytes) : fits n bs = decide (bs.length ≤ n) := by
  rw [Bool.eq_iff_iff]; simp [fits_iff]

theorem length_bigEndian (w n : Nat) : (bigEndian w n).length = w := by
  induction w with
  | zero => rfl
  | succ w ih => simp [bigEndian, ih]

theorem length_zeros (n : Nat) : (zeros n).length = n := List.length_replicate

private theorem foldl_digits (bs : Bytes) (n : Nat) :
    bs.foldl (fun n b => n * 256 + b.toNat) n = n * capacity bs.length + ofBigEndian bs := by
  induction bs generalizing n with
  | nil => simp [ofBigEndian, capacity]
  | cons b bs ih =>
    have h : ofBigEndian (b :: bs) = b.toNat * capacity bs.length + ofBigEndian bs := by
      simp only [ofBigEndian, List.foldl_cons]
      rw [ih]
      simp [ofBigEndian]
    rw [List.foldl_cons, ih, h, List.length_cons, capacity, Nat.add_mul]
    simp only [Nat.mul_assoc, Nat.mul_comm, Nat.add_assoc]

theorem ofBigEndian_cons (b : UInt8) (bs : Bytes) :
    ofBigEndian (b :: bs) = b.toNat * capacity bs.length + ofBigEndian bs := by
  have h := foldl_digits bs b.toNat
  simpa [ofBigEndian] using h

theorem ofBigEndian_lt (bs : Bytes) : ofBigEndian bs < capacity bs.length := by
  induction bs with
  | nil => simp [ofBigEndian, capacity]
  | cons b bs ih =>
    rw [ofBigEndian_cons, List.length_cons, capacity]
    have hb : b.toNat < 256 := b.toNat_lt
    have hm : b.toNat * capacity bs.length ≤ 255 * capacity bs.length :=
      Nat.mul_le_mul_right _ (by omega)
    omega

theorem ofBigEndian_bigEndian (w n : Nat) : ofBigEndian (bigEndian w n) = n % capacity w := by
  induction w with
  | zero => simp [bigEndian, ofBigEndian, capacity, Nat.mod_one]
  | succ w ih =>
    rw [bigEndian, ofBigEndian_cons, ih, length_bigEndian, capacity, Nat.mul_comm (capacity w) 256,
      Nat.mul_comm 256 (capacity w), Nat.mod_mul, Nat.add_comm, Nat.mul_comm (capacity w)]
    simp

theorem bigEndian_add_mul (w n k : Nat) : bigEndian w (n + k * capacity w) = bigEndian w n := by
  induction w generalizing k with
  | zero => rfl
  | succ w ih =>
    have hk : k * capacity (w + 1) = k * 256 * capacity w := by
      rw [capacity, Nat.mul_assoc, Nat.mul_comm 256]
    have hpos : 0 < capacity w := capacity_pos _
    rw [bigEndian, bigEndian, hk, ih, Nat.add_mul_div_right _ _ hpos]
    congr 1
    apply UInt8.toNat_inj.mp
    simp

theorem bigEndian_ofBigEndian (bs : Bytes) : bigEndian bs.length (ofBigEndian bs) = bs := by
  induction bs with
  | nil => rfl
  | cons b bs ih =>
    have hlt := ofBigEndian_lt bs
    have hpos : 0 < capacity bs.length := capacity_pos _
    rw [List.length_cons, bigEndian, ofBigEndian_cons, Nat.add_comm, bigEndian_add_mul, ih,
      Nat.add_mul_div_right _ _ hpos, Nat.div_eq_of_lt hlt]
    simp

end Bytes

end CallWire
