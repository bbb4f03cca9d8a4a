import CallWire.Bytes

/-!
# Byte queues

Bytes are put in at the back and taken out at the front. The queue keeps its front part in order
and its back part reversed, so that putting bytes in costs nothing for those that wait. What it
holds is `toList`, and every operation is described by what it does to that list:

* `toList_push`: `push` appends;
* `toList_reserve`: `reserve` only rearranges, and afterwards `front_reserve` finds the bytes;
* `split_eq`: `split` cuts the list in two.
-/

namespace CallWire

structure ByteQueue where
  /-- The bytes in front, in order. -/
  front : Bytes
  /-- The bytes behind them, last one first. -/
  back : Bytes
  size : Nat
  size_eq : size = front.length + back.length

namespace ByteQueue

def empty : ByteQueue := ⟨[], [], 0, rfl⟩

/-- The bytes in order. -/
def toList (q : ByteQueue) : Bytes := q.front ++ q.back.reverse

theorem length_toList (q : ByteQueue) : q.toList.length = q.size := by
  simp [toList, q.size_eq]

def push (q : ByteQueue) (bs : Bytes) : ByteQueue where
  front := q.front
  back := bs.reverseAux q.back
  size := q.size + bs.length
  size_eq := by simp [q.size_eq, List.reverseAux_eq]; omega

theorem toList_push (q : ByteQueue) (bs : Bytes) : (q.push bs).toList = q.toList ++ bs := by
  simp [push, toList, List.reverseAux_eq]

theorem size_push (q : ByteQueue) (bs : Bytes) : (q.push bs).size = q.size + bs.length := rfl

/-- Moves all bytes to the front part unless it has at least `n` of them already. -/
def reserve (q : ByteQueue) (n : Nat) : ByteQueue :=
  if Bytes.covers n q.front then q
  else
    { front := q.front ++ q.back.reverse
      back := []
      size := q.size
      size_eq := by simp [q.size_eq] }

theorem toList_reserve (q : ByteQueue) (n : Nat) : (q.reserve n).toList = q.toList := by
  unfold reserve
  split <;> simp [toList]

theorem size_reserve (q : ByteQueue) (n : Nat) : (q.reserve n).size = q.size := by
  unfold reserve
  split <;> rfl

theorem front_reserve (q : ByteQueue) (n : Nat) :
    (q.reserve n).front.take n = q.toList.take n := by
  unfold reserve
  split
  · rename_i h
    rw [Bytes.covers_iff] at h
    simp [toList, List.take_append_of_le_length h]
  · rfl

/-- The first `n` bytes, as far as there are any, and the queue without them. -/
def split (q : ByteQueue) (n : Nat) : Bytes × ByteQueue :=
  let r := q.reserve n
  let head := r.front.take n
  (head,
    { front := r.front.drop n
      back := r.back
      size := r.size - head.length
      size_eq := by
        have h := r.size_eq
        simp [head]
        omega })

theorem split_eq (q : ByteQueue) (n : Nat) :
    (q.split n).1 = q.toList.take n ∧ (q.split n).2.toList = q.toList.drop n := by
  constructor
  · exact front_reserve q n
  · show (q.reserve n).front.drop n ++ (q.reserve n).back.reverse = q.toList.drop n
    unfold reserve
    split
    · rename_i h
      rw [Bytes.covers_iff] at h
      simp [toList, List.drop_append_of_le_length h]
    · simp [toList]

end ByteQueue

end CallWire
